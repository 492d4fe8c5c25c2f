import RpcEmu.Copro.CardRun
import RpcEmu.Cpu.Rv32i

/-!
# Accesses to the control area

The region table and the write log are read and written a word at a time, through `ctlWord` and
`ctlSetWord`.  Their bounds test is a 32-bit sum, `offset + 4`, which wraps for the last four offsets
there are; the offsets come from two registers the guest writes.

* `TablesSafe` — no word of the table or the ring in use is at an offset for which the sum wraps, and
  the ring's indexes are inside it.  Everything a card does keeps it, but for
* **the gap**: MAPOFF and LOGOFF take effect at once on a map or a log in use, unchecked.
* `OffsetsSafe` — such a write leaves every word of the table or the ring clear of the last four
  offsets.  Along the histories whose operations all meet it, every index is inside the control area
  (`insideControlArea_of_offsetsSafe`).
-/

namespace RpcEmu

open Bytes Effects Runs

/-! ## Footprints -/

/-- The bytes the lookup reads, from entry `i` with `n` left: the size and the kind of each entry,
and the base of those in the right space, until one matches. -/
def lookupBytesFrom (bus : CoproBus) (addr : UInt32) (isPort : Bool) : Nat → Nat → List UInt32
  | _, 0 => []
  | i, n + 1 =>
    let e := regionEntry bus i
    ctlWordBytes bus (e + 4) ++ ctlWordBytes bus (e + 8) ++
      (if decide (ctlWord bus (e + 8) &&& coproRegionPort ≠ 0) == isPort then ctlWordBytes bus e
        else []) ++
      (if regionMatches bus addr isPort e then [] else lookupBytesFrom bus addr isPort (i + 1) n)

/-- The bytes `copro_bus_region` reads. -/
def lookupBytes (bus : CoproBus) (addr : UInt32) (isPort : Bool) : List UInt32 :=
  if bus.mapCount = 0 || !bus.ctlPresent then []
  else lookupBytesFrom bus addr isPort 0 bus.mapCount.toNat

/-- The bytes `region_fields` reads, of the region found. -/
def fieldsBytes (bus : CoproBus) : Option UInt32 → List UInt32
  | none => []
  | some e => ctlWordBytes bus e ++ ctlWordBytes bus (e + 8) ++ ctlWordBytes bus (e + 12)

def latchBytes (bus : CoproBus) (addr : UInt32) : Option UInt32 → List UInt32
  | none => []
  | some e =>
    let f := regionFields bus e
    let off := f.latch + (addr - f.base)
    if coproRegionKind f.kind = .latch ∧ bus.ctlPresent = true ∧ off < bus.ctlSize then [off] else []

def slotBytes (bus : CoproBus) (slot : UInt32) : List UInt32 :=
  ctlWordBytes bus slot ++ ctlWordBytes bus (slot + 4) ++ ctlWordBytes bus (slot + 8) ++
    ctlWordBytes bus (slot + 12)

/-- The bytes `log_push` writes. -/
def pushBytes (bus : CoproBus) : List UInt32 :=
  if bus.logEntries = 0 then []
  else if logNext bus bus.logHead = bus.logTail then []
  else slotBytes bus (logSlot bus bus.logHead)

/-- The bytes `copro_bus_log_pop` reads. -/
def popBytes (bus : CoproBus) : List UInt32 :=
  if bus.logEntries = 0 || bus.logTail = bus.logHead then []
  else slotBytes bus (logSlot bus bus.logTail)

/-- The bytes `copro_bus_can_stall` reads. -/
def canStallBytesFrom (bus : CoproBus) : Nat → Nat → List UInt32
  | _, 0 => []
  | i, n + 1 =>
    let e := regionEntry bus i
    ctlWordBytes bus (e + 4) ++
      (if ctlWord bus (e + 4) = 0 then canStallBytesFrom bus (i + 1) n
      else ctlWordBytes bus (e + 8) ++
        (if coproRegionKind (ctlWord bus (e + 8)) = .stall then []
        else canStallBytesFrom bus (i + 1) n))

def callBytes (bus : CoproBus) : BusEvent → List UInt32
  | .read addr isPort =>
    if bus.answers addr false then []
    else lookupBytes bus addr isPort ++ fieldsBytes bus (coproBusRegion bus addr isPort) ++
      latchBytes bus addr (coproBusRegion bus addr isPort)
  | .write addr isPort _ _ =>
    if bus.answers addr true then []
    else lookupBytes bus addr isPort ++ fieldsBytes bus (coproBusRegion bus addr isPort) ++
      (if (writeEffect bus addr isPort).logged then pushBytes bus else [])
  | .resume _ => []

/-- **The byte indexes into the control area an operation uses.** -/
def busOpBytes (bus : CoproBus) : BusOp → List UInt32
  | .call e => callBytes bus e
  | .pop => popBytes bus
  | .lookup addr => lookupBytes bus addr true
  | .canStall => canStallBytesFrom bus 0 bus.mapCount.toNat
  | _ => []

/-- Every byte the operation uses is inside the control area. -/
def InsideControlArea (bus : CoproBus) (op : BusOp) : Prop :=
  ∀ b ∈ busOpBytes bus op, b < bus.ctlSize

/-! ## Words clear of the wrap -/

/-- A sixteen-byte entry that does not wrap round. -/
def EntrySafe (e : UInt32) : Prop :=
  ∀ w ∈ ([0, 4, 8, 12] : List UInt32), (e + w).toNat + 4 < 2 ^ 32

instance (e : UInt32) : Decidable (EntrySafe e) :=
  List.decidableBAll (fun w : UInt32 => (e + w).toNat + 4 < 2 ^ 32) [0, 4, 8, 12]

/-- The offset written keeps every entry in use from wrapping. -/
def OffsetsSafe (bus : CoproBus) : BusOp → Prop
  | .mapOff val => ∀ i < bus.mapCount.toNat, EntrySafe (val + UInt32.ofNat i * 16)
  | .logOff val => ∀ i < bus.logEntries.toNat, EntrySafe (val + UInt32.ofNat i * 16)
  | _ => True

instance (bus : CoproBus) (op : BusOp) : Decidable (OffsetsSafe bus op) :=
  match op with
  | .mapOff val =>
    inferInstanceAs (Decidable (∀ i < bus.mapCount.toNat, EntrySafe (val + UInt32.ofNat i * 16)))
  | .logOff val =>
    inferInstanceAs (Decidable (∀ i < bus.logEntries.toNat, EntrySafe (val + UInt32.ofNat i * 16)))
  | .call _ | .pop | .lookup _ | .canStall | .setRam _ | .setCtl _ | .mapCount _ | .logEntries _
  | .logTail _ | .waitData _ | .reset => isTrue trivial

/-- The table and the log in use do not wrap, and the log's indexes are inside it. -/
structure TablesSafe (bus : CoproBus) : Prop where
  table : ∀ i < bus.mapCount.toNat, EntrySafe (regionEntry bus i)
  ring : ∀ i < bus.logEntries.toNat, EntrySafe (bus.logOff + UInt32.ofNat i * 16)
  head : bus.logEntries ≠ 0 → bus.logHead < bus.logEntries
  tail : bus.logEntries ≠ 0 → bus.logTail < bus.logEntries

lemma ctlWordBytes_inside (bus : CoproBus) {offset : UInt32} (h : offset.toNat + 4 < 2 ^ 32) :
    ∀ b ∈ ctlWordBytes bus offset, b < bus.ctlSize := by
  intro b hb
  unfold ctlWordBytes at hb
  split_ifs at hb with ht
  · simp at hb
  · have hle : ¬ bus.ctlSize < offset + 4 := by
      intro hlt
      exact ht (by simp [hlt])
    rw [UInt32.not_lt, UInt32.le_iff_toNat_le, UInt32.toNat_add] at hle
    simp only [UInt32.reduceToNat] at hle
    have hk : ∀ k : UInt32, k.toNat < 4 → offset + k < bus.ctlSize := by
      intro k hk
      rw [UInt32.lt_iff_toNat_lt, UInt32.toNat_add]
      omega
    simp only [List.mem_cons, List.not_mem_nil, or_false] at hb
    rcases hb with rfl | rfl | rfl | rfl
    · simpa using hk 0 (by decide)
    · exact hk 1 (by decide)
    · exact hk 2 (by decide)
    · exact hk 3 (by decide)

lemma EntrySafe.inside {e : UInt32} (h : EntrySafe e) (bus : CoproBus) :
    (∀ b ∈ ctlWordBytes bus e, b < bus.ctlSize) ∧
    (∀ b ∈ ctlWordBytes bus (e + 4), b < bus.ctlSize) ∧
    (∀ b ∈ ctlWordBytes bus (e + 8), b < bus.ctlSize) ∧
    (∀ b ∈ ctlWordBytes bus (e + 12), b < bus.ctlSize) := by
  have h0 := h 0 (by simp)
  rw [UInt32.add_zero] at h0
  exact ⟨ctlWordBytes_inside bus h0, ctlWordBytes_inside bus (h 4 (by simp)),
    ctlWordBytes_inside bus (h 8 (by simp)), ctlWordBytes_inside bus (h 12 (by simp))⟩

section Footprints

variable {bus : CoproBus} (h : TablesSafe bus)
include h

lemma lookupBytesFrom_inside (addr : UInt32) (isPort : Bool) (n i : Nat)
    (hi : i + n ≤ bus.mapCount.toNat) :
    ∀ b ∈ lookupBytesFrom bus addr isPort i n, b < bus.ctlSize := by
  induction n generalizing i with
  | zero => simp [lookupBytesFrom]
  | succ n ih =>
    obtain ⟨h0, h4, h8, -⟩ := (h.table i (by omega)).inside bus
    have hrest := ih (i + 1) (by omega)
    intro b hb
    simp only [lookupBytesFrom, List.mem_append] at hb
    rcases hb with ((hb | hb) | hb) | hb
    · exact h4 b hb
    · exact h8 b hb
    · split_ifs at hb
      · exact h0 b hb
      · simp at hb
    · split_ifs at hb
      · simp at hb
      · exact hrest b hb

lemma lookupBytes_inside (addr : UInt32) (isPort : Bool) :
    ∀ b ∈ lookupBytes bus addr isPort, b < bus.ctlSize := by
  intro b hb
  unfold lookupBytes at hb
  split_ifs at hb
  · simp at hb
  · exact lookupBytesFrom_inside h addr isPort _ 0 (by omega) b hb

omit h in
lemma mem_coproBusRegionFrom {addr : UInt32} {isPort : Bool} {n i : Nat} {e : UInt32}
    (he : e ∈ coproBusRegionFrom bus addr isPort i n) : ∃ j < i + n, e = regionEntry bus j := by
  induction n generalizing i with
  | zero => simp [coproBusRegionFrom] at he
  | succ n ih =>
    rw [coproBusRegionFrom] at he
    split_ifs at he
    · refine ⟨i, by omega, ?_⟩
      simpa using he.symm
    · obtain ⟨j, hj, rfl⟩ := ih he
      exact ⟨j, by omega, rfl⟩

lemma fieldsBytes_inside (addr : UInt32) (isPort : Bool) :
    ∀ b ∈ fieldsBytes bus (coproBusRegion bus addr isPort), b < bus.ctlSize := by
  intro b hb
  cases hr : coproBusRegion bus addr isPort with
  | none => simp [hr, fieldsBytes] at hb
  | some e =>
    have he : e ∈ coproBusRegionFrom bus addr isPort 0 bus.mapCount.toNat := by
      rw [coproBusRegion] at hr
      split_ifs at hr
      exact hr
    obtain ⟨j, hj, rfl⟩ := mem_coproBusRegionFrom he
    obtain ⟨h0, -, h8, h12⟩ := (h.table j (by omega)).inside bus
    simp only [hr, fieldsBytes, List.mem_append] at hb
    rcases hb with (hb | hb) | hb
    · exact h0 b hb
    · exact h8 b hb
    · exact h12 b hb

omit h in
lemma latchBytes_inside (addr : UInt32) (r : Option UInt32) :
    ∀ b ∈ latchBytes bus addr r, b < bus.ctlSize := by
  intro b hb
  cases r with
  | none => simp [latchBytes] at hb
  | some e =>
    simp only [latchBytes] at hb
    split_ifs at hb with hc
    · obtain rfl := List.mem_singleton.mp hb
      exact hc.2.2
    · simp at hb

omit h in
lemma slotBytes_inside {slot : UInt32} (hs : EntrySafe slot) :
    ∀ b ∈ slotBytes bus slot, b < bus.ctlSize := by
  obtain ⟨h0, h4, h8, h12⟩ := hs.inside bus
  intro b hb
  simp only [slotBytes, List.mem_append] at hb
  rcases hb with ((hb | hb) | hb) | hb
  · exact h0 b hb
  · exact h4 b hb
  · exact h8 b hb
  · exact h12 b hb

lemma logSlot_safe {i : UInt32} (hi : i < bus.logEntries) : EntrySafe (logSlot bus i) := by
  have hs := h.ring i.toNat (UInt32.lt_iff_toNat_lt.mp hi)
  rwa [UInt32.ofNat_toNat] at hs

lemma pushBytes_inside : ∀ b ∈ pushBytes bus, b < bus.ctlSize := by
  intro b hb
  unfold pushBytes at hb
  split_ifs at hb with h0 hf
  · simp at hb
  · simp at hb
  · exact slotBytes_inside (logSlot_safe h (h.head h0)) b hb

lemma popBytes_inside : ∀ b ∈ popBytes bus, b < bus.ctlSize := by
  intro b hb
  unfold popBytes at hb
  split_ifs at hb with h0
  · simp at hb
  · have hne : bus.logEntries ≠ 0 := fun hc => h0 (by simp [hc])
    exact slotBytes_inside (logSlot_safe h (h.tail hne)) b hb

lemma canStallBytesFrom_inside (n i : Nat) (hi : i + n ≤ bus.mapCount.toNat) :
    ∀ b ∈ canStallBytesFrom bus i n, b < bus.ctlSize := by
  induction n generalizing i with
  | zero => simp [canStallBytesFrom]
  | succ n ih =>
    obtain ⟨-, h4, h8, -⟩ := (h.table i (by omega)).inside bus
    have hrest := ih (i + 1) (by omega)
    intro b hb
    simp only [canStallBytesFrom, List.mem_append] at hb
    rcases hb with hb | hb
    · exact h4 b hb
    · split_ifs at hb
      · exact hrest b hb
      · rcases List.mem_append.mp hb with hb | hb
        · exact h8 b hb
        · simp at hb
      · rcases List.mem_append.mp hb with hb | hb
        · exact h8 b hb
        · exact hrest b hb

/-- **Every operation stays inside**, from tables clear of the wrap. -/
lemma insideControlArea_of_safe (op : BusOp) : InsideControlArea bus op := by
  intro b hb
  cases op with
  | call e =>
    cases e with
    | read addr isPort =>
      simp only [busOpBytes, callBytes] at hb
      split_ifs at hb
      · simp at hb
      · simp only [List.mem_append] at hb
        rcases hb with (hb | hb) | hb
        · exact lookupBytes_inside h addr isPort b hb
        · exact fieldsBytes_inside h addr isPort b hb
        · exact latchBytes_inside addr _ b hb
    | write addr isPort cycle value =>
      simp only [busOpBytes, callBytes] at hb
      split_ifs at hb
      · simp at hb
      · simp only [List.mem_append] at hb
        rcases hb with (hb | hb) | hb
        · exact lookupBytes_inside h addr isPort b hb
        · exact fieldsBytes_inside h addr isPort b hb
        · exact pushBytes_inside h b hb
      · simp only [List.mem_append, List.not_mem_nil, or_false] at hb
        rcases hb with hb | hb
        · exact lookupBytes_inside h addr isPort b hb
        · exact fieldsBytes_inside h addr isPort b hb
    | resume value => simp [busOpBytes, callBytes] at hb
  | pop => exact popBytes_inside h b hb
  | lookup addr => exact lookupBytes_inside h addr true b hb
  | canStall => exact canStallBytesFrom_inside h _ 0 (by omega) b hb
  | _ => simp [busOpBytes] at hb

end Footprints

/-! ## What keeps the tables clear -/

lemma entrySafe_of_fits {offset size : UInt32} {count i : Nat} (hi : i < count)
    (hf : offset.toNat + 16 * count ≤ size.toNat) : EntrySafe (offset + UInt32.ofNat i * 16) := by
  have hlt := size.toNat_lt
  have hcount : i < 2 ^ 32 := by omega
  intro w hw
  have hw16 : w.toNat ≤ 12 := by
    simp only [List.mem_cons, List.not_mem_nil, or_false] at hw
    rcases hw with rfl | rfl | rfl | rfl <;> decide
  simp only [UInt32.toNat_add, UInt32.toNat_mul, UInt32.toNat_ofNat', UInt32.reduceToNat]
  omega

lemma coproBusSetMap_cases (bus : CoproBus) (offset count : UInt32) :
    (coproBusSetMap bus offset count = (false, bus)) ∨
    (count = 0 ∧ coproBusSetMap bus offset count = (true, { bus with mapCount := 0 })) ∨
    (offset.toNat + 16 * count.toNat ≤ bus.ctlSize.toNat ∧
      coproBusSetMap bus offset count = (true, { bus with mapOff := offset, mapCount := count })) := by
  unfold coproBusSetMap
  split_ifs with h0 hp hq ho
  · exact Or.inr (Or.inl ⟨h0, rfl⟩)
  · exact Or.inl rfl
  · exact Or.inl rfl
  · exact Or.inl rfl
  · refine Or.inr (Or.inr ⟨?_, rfl⟩)
    simp only [entrySize] at hq ho
    have hmul := Nat.mul_le_mul_right 16 (Nat.le_of_not_lt hq)
    have hdiv := Nat.div_mul_le_self bus.ctlSize.toNat 16
    omega

lemma coproBusSetLog_cases (bus : CoproBus) (offset entries : UInt32) :
    (coproBusSetLog bus offset entries = (false, bus)) ∨
    (entries = 0 ∧ coproBusSetLog bus offset entries
      = (true, { bus with logEntries := 0, logHead := 0, logTail := 0 })) ∨
    (entries ≠ 0 ∧ offset.toNat + 16 * entries.toNat ≤ bus.ctlSize.toNat ∧
      coproBusSetLog bus offset entries
        = (true, { bus with logOff := offset, logEntries := entries, logHead := 0, logTail := 0,
                            logDropped := 0 })) := by
  by_cases h0 : entries = 0
  · exact Or.inr (Or.inl ⟨h0, by simp [coproBusSetLog, h0]⟩)
  · cases ha : (coproBusSetLog bus offset entries).1 with
    | true =>
      obtain ⟨-, hfits, hbus⟩ := coproBusSetLog_accepted h0 ha
      exact Or.inr (Or.inr ⟨h0, hfits, Prod.ext ha hbus⟩)
    | false =>
      left
      unfold coproBusSetLog at ha ⊢
      rw [if_neg h0] at ha ⊢
      split_ifs at ha ⊢ <;> rfl

lemma logNext_lt {bus : CoproBus} {i : UInt32} (hi : i < bus.logEntries) :
    logNext bus i < bus.logEntries := by
  have hlt := UInt32.lt_iff_toNat_lt.mp hi
  have hn := LogRing.toNat_logNext hlt
  rw [UInt32.lt_iff_toNat_lt, hn]
  exact Ring.next_lt hlt

lemma TablesSafe.of_same {bus bus' : CoproBus} (h : TablesSafe bus) (hm : bus'.mapOff = bus.mapOff)
    (hc : bus'.mapCount = bus.mapCount) (hl : bus'.logOff = bus.logOff)
    (he : bus'.logEntries = bus.logEntries)
    (hh : bus.logEntries ≠ 0 → bus'.logHead < bus.logEntries)
    (ht : bus.logEntries ≠ 0 → bus'.logTail < bus.logEntries) : TablesSafe bus' := by
  refine ⟨fun i hi => ?_, fun i hi => ?_, fun h0 => ?_, fun h0 => ?_⟩
  · rw [regionEntry, hm]
    exact h.table i (hc ▸ hi)
  · rw [hl]
    exact h.ring i (he ▸ hi)
  · rw [he]
    exact hh (he ▸ h0)
  · rw [he]
    exact ht (he ▸ h0)

lemma ctlSetWord_ctl (bus : CoproBus) (offset value : UInt32) :
    ∃ ctl, ctlSetWord bus offset value = { bus with ctl := ctl } := by
  unfold ctlSetWord
  split
  · exact ⟨_, rfl⟩
  · exact ⟨bus.ctl, rfl⟩

lemma tablesSafe_logPush {bus : CoproBus} (h : TablesSafe bus) (cycle addr value info : UInt32) :
    TablesSafe (logPush bus cycle addr value info) := by
  rw [logPush_eq]
  split_ifs with h0
  · exact h
  · exact h.of_same rfl rfl rfl rfl h.head h.tail
  · simp only [logStore]
    obtain ⟨c1, h1⟩ := ctlSetWord_ctl bus (logSlot bus bus.logHead) cycle
    rw [h1]
    obtain ⟨c2, h2⟩ := ctlSetWord_ctl { bus with ctl := c1 } (logSlot bus bus.logHead + 4) addr
    rw [h2]
    obtain ⟨c3, h3⟩ := ctlSetWord_ctl { bus with ctl := c2 } (logSlot bus bus.logHead + 8) value
    rw [h3]
    obtain ⟨c4, h4⟩ := ctlSetWord_ctl { bus with ctl := c3 } (logSlot bus bus.logHead + 12)
      (if bus.logDropped ≠ 0 then info ||| coproLogInfoDropped else info)
    rw [h4]
    exact h.of_same rfl rfl rfl rfl (fun h0 => logNext_lt (h.head h0)) h.tail

lemma tablesSafe_outsideLog {bus bus' : CoproBus} (h : TablesSafe bus) (ho : OutsideLog bus bus') :
    TablesSafe bus' := by
  obtain ⟨ram, hs, rfl⟩ := ho
  exact h.of_same rfl rfl rfl rfl h.head h.tail

/-- **One operation**: all but an unsafe MAPOFF or LOGOFF keep the tables clear. -/
lemma tablesSafe_step {bus : CoproBus} (h : TablesSafe bus) (op : BusOp) (hc : OffsetsSafe bus op) :
    TablesSafe (busStep bus op) := by
  cases op with
  | call e =>
    cases hw : loggedWrite bus e with
    | none => exact tablesSafe_outsideLog h (outsideLog_perform hw)
    | some w =>
      obtain ⟨bus', ho, hp⟩ := perform_of_loggedWrite hw
      simp only [busStep, hp]
      exact tablesSafe_logPush (tablesSafe_outsideLog h ho) _ _ _ _
  | pop =>
    simp only [busStep, coproBusLogPop]
    split_ifs
    · exact h
    · exact h.of_same rfl rfl rfl rfl h.head (fun h0 => logNext_lt (h.tail h0))
  | mapOff val => exact ⟨hc, h.ring, h.head, h.tail⟩
  | logOff val => exact ⟨h.table, hc, h.head, h.tail⟩
  | mapCount val =>
    simp only [busStep]
    rcases coproBusSetMap_cases bus bus.mapOff val with hb | ⟨-, hb⟩ | ⟨hf, hb⟩
    · rw [hb]
      exact h
    · rw [hb]
      refine ⟨fun i hi => absurd hi (Nat.not_lt_zero i), h.ring, h.head, h.tail⟩
    · rw [hb]
      exact ⟨fun i hi => entrySafe_of_fits hi hf, h.ring, h.head, h.tail⟩
  | logEntries val =>
    simp only [busStep]
    rcases coproBusSetLog_cases bus bus.logOff val with hb | ⟨-, hb⟩ | ⟨hn, hf, hb⟩
    · rw [hb]
      exact h
    · rw [hb]
      refine ⟨h.table, fun i hi => absurd hi (Nat.not_lt_zero i), fun h0 => ?_, fun h0 => ?_⟩
      · exact absurd rfl h0
      · exact absurd rfl h0
    · have hpos : (0 : UInt32) < val := by
        rw [UInt32.lt_iff_toNat_lt]
        exact Nat.pos_of_ne_zero fun hz => hn (UInt32.toNat_inj.mp hz)
      rw [hb]
      exact ⟨h.table, fun i hi => entrySafe_of_fits hi hf, fun _ => hpos, fun _ => hpos⟩
  | logTail val =>
    simp only [busStep]
    split_ifs with hv
    · rw [Bool.and_eq_true, decide_eq_true_eq, decide_eq_true_eq] at hv
      exact h.of_same rfl rfl rfl rfl h.head (fun _ => hv.2)
    · exact h
  | lookup addr => exact h
  | canStall => exact h
  | setRam ram => exact h.of_same rfl rfl rfl rfl h.head h.tail
  | setCtl ctl => exact h.of_same rfl rfl rfl rfl h.head h.tail
  | waitData val => exact h.of_same rfl rfl rfl rfl h.head h.tail
  | reset => exact h

variable {σ η : Type} (ops : CoreOps σ) (host : HostBus η)

/-- **Control-area accesses stay inside the control area along every history that keeps a table in
use clear of the wrap.**  Any core, any host. -/
theorem insideControlArea_of_offsetsSafe (core : OpenbusCoprocCore) (bytes : UInt32) (init : σ)
    (h : η) (es : List CardEvent)
    (hc : Along busStep OffsetsSafe (openbusCoprocFit ops core bytes init h).bus
      (historyOps ops host (openbusCoprocFit ops core bytes init h) es)) :
    Along busStep InsideControlArea (openbusCoprocFit ops core bytes init h).bus
      (historyOps ops host (openbusCoprocFit ops core bytes init h) es) := by
  have hstart : TablesSafe (openbusCoprocFit ops core bytes init h).bus := by
    refine ⟨fun i hi => absurd hi (Nat.not_lt_zero i), fun i hi => absurd hi (Nat.not_lt_zero i),
      fun h0 => absurd rfl h0, fun h0 => absurd rfl h0⟩
  refine along_of_inv (I := TablesSafe) ?_ ?_ _ _ hstart hc
  · intro bus op hb ho
    exact tablesSafe_step hb op ho
  · intro bus op hb _
    exact insideControlArea_of_safe hb op

theorem insideControlArea_moved_table :
    Along busStep InsideControlArea rv32iCard.bus
      (historyOps rv32iOps emptyHost rv32iCard
        [.regWrite 0x58 .size32 0x3fff0, .regWrite 0x5c .size32 1, .regWrite 0x58 .size32 0x100,
          .access (.read 0x10 false)]) :=
  insideControlArea_of_offsetsSafe rv32iOps emptyHost .rv32i 0x1000 (rv32iInit true 0x1000) () _
    (by decide +kernel)

/-- **The gap.**  A table of one entry is accepted at offset 0; MAPOFF then moves it to the end of
the 32-bit offsets, and the next access reads at 0xfffffffc. -/
theorem lookup_leaves_control_area :
    ¬ ∀ es : List CardEvent, Along busStep InsideControlArea rv32iCard.bus
      (historyOps rv32iOps emptyHost rv32iCard es) := by
  intro h
  have hrun := h [.regWrite 0x5c .size32 1, .regWrite 0x58 .size32 0xfffffff8,
    .access (.read 0x10 false)]
  have hops : historyOps rv32iOps emptyHost rv32iCard
      [.regWrite 0x5c .size32 1, .regWrite 0x58 .size32 0xfffffff8, .access (.read 0x10 false)]
      = [.mapCount 1, .canStall, .mapOff 0xfffffff8, .call (.read 0x10 false)] := by rfl
  rw [hops] at hrun
  simp only [along_cons] at hrun
  obtain ⟨-, -, -, hread, -⟩ := hrun
  exact absurd (hread 0xfffffffc (by decide)) (by decide)

end RpcEmu
