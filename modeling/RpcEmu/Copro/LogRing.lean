import RpcEmu.Lib.Ring
import RpcEmu.Copro.BusFacts

/-!
# The write log as a ring of entries

The log is sixteen-byte entries in the control area, between a head the card moves and a tail the
reader moves.  `LogRing` is what makes it one — the ring fits, and both indexes are inside — and
`pendingEntries` is what it holds, oldest first.  Everything said about the log elsewhere goes
through the lemmas here.
-/

namespace RpcEmu

open Bytes

/-! ## One entry -/

def storeEntry (m : Block) (s : UInt32) (e : CoproLogEntry) : Block :=
  (((m.setWord s e.cycle).setWord (s + 4) e.addr).setWord (s + 8) e.value).setWord (s + 12) e.info

def entryIn (m : Block) (s : UInt32) : CoproLogEntry where
  cycle := m.word s
  addr := m.word (s + 4)
  value := m.word (s + 8)
  info := m.word (s + 12)

section Entry

variable (m : Block) {s : UInt32} (e : CoproLogEntry) (hs : s.toNat + 16 ≤ 2 ^ 32)
include hs

private lemma toNat_add_lt {k : UInt32} (hk : k.toNat < 16) : (s + k).toNat = s.toNat + k.toNat := by
  rw [UInt32.toNat_add]
  omega

lemma entryIn_storeEntry : entryIn (storeEntry m s e) s = e := by
  have h4 : (s + 4).toNat = s.toNat + 4 := toNat_add_lt hs (by decide)
  have h8 : (s + 8).toNat = s.toNat + 8 := toNat_add_lt hs (by decide)
  have h12 : (s + 12).toNat = s.toNat + 12 := toNat_add_lt hs (by decide)
  have keep : ∀ (m : Block) (i j w : UInt32), i.toNat + 4 ≤ 2 ^ 32 → j.toNat + 4 ≤ i.toNat →
      (m.setWord i w).word j = m.word j := fun m i j w hi hj =>
    m.word_setWord_of_apart w hi (by omega) (Or.inl hj)
  simp only [entryIn, storeEntry]
  congr 1
  · rw [keep _ _ _ _ (by omega) (by omega), keep _ _ _ _ (by omega) (by omega),
      keep _ _ _ _ (by omega) (by omega), Block.word_setWord]
  · rw [keep _ _ _ _ (by omega) (by omega), keep _ _ _ _ (by omega) (by omega), Block.word_setWord]
  · rw [keep _ _ _ _ (by omega) (by omega), Block.word_setWord]
  · rw [Block.word_setWord]

lemma storeEntry_of_outside {b : UInt32} (hb : b.toNat < s.toNat ∨ s.toNat + 16 ≤ b.toNat) :
    storeEntry m s e b = m b := by
  have h4 : (s + 4).toNat = s.toNat + 4 := toNat_add_lt hs (by decide)
  have h8 : (s + 8).toNat = s.toNat + 8 := toNat_add_lt hs (by decide)
  have h12 : (s + 12).toNat = s.toNat + 12 := toNat_add_lt hs (by decide)
  rw [storeEntry, Block.setWord_of_outside _ _ (by omega) (by omega),
    Block.setWord_of_outside _ _ (by omega) (by omega),
    Block.setWord_of_outside _ _ (by omega) (by omega),
    Block.setWord_of_outside _ _ (by omega) (by omega)]

lemma entryIn_storeEntry_of_apart {t : UInt32} (ht : t.toNat + 16 ≤ 2 ^ 32)
    (hst : t.toNat + 16 ≤ s.toNat ∨ s.toNat + 16 ≤ t.toNat) :
    entryIn (storeEntry m s e) t = entryIn m t := by
  have hkeep : ∀ k : UInt32, k.toNat < 16 → storeEntry m s e (t + k) = m (t + k) := by
    intro k hk
    have hk' := toNat_add_lt ht hk
    exact storeEntry_of_outside m e hs (by omega)
  have hword : ∀ w : UInt32, w.toNat + 4 ≤ 16 →
      (storeEntry m s e).word (t + w) = m.word (t + w) := by
    intro w hw
    have hb : ∀ k : UInt32, k.toNat < 4 → storeEntry m s e (t + w + k) = m (t + w + k) := by
      intro k hk
      rw [UInt32.add_assoc]
      apply hkeep
      rw [UInt32.toNat_add]
      omega
    apply Block.word_congr (by simpa using hb 0 (by decide))
    all_goals exact hb _ (by decide)
  simp only [entryIn, hword 4 (by decide), hword 8 (by decide), hword 12 (by decide)]
  rw [show (storeEntry m s e).word t = m.word t by simpa using hword 0 (by decide)]

end Entry

/-! ## The ring -/

/-- The log fits the control area, and its indexes are below its size. -/
structure LogRing (bus : CoproBus) : Prop where
  present : bus.ctlPresent = true
  fits : bus.logOff.toNat + 16 * bus.logEntries.toNat ≤ bus.ctlSize.toNat
  head_lt : bus.logHead.toNat < bus.logEntries.toNat
  tail_lt : bus.logTail.toNat < bus.logEntries.toNat

def pendingSlots (bus : CoproBus) : List Nat :=
  Ring.slots bus.logEntries.toNat bus.logTail.toNat bus.logHead.toNat

/-- **What the log holds**, oldest first: the entries between the tail and the head. -/
def pendingEntries (bus : CoproBus) : List CoproLogEntry :=
  (pendingSlots bus).map fun i => logEntryAt bus (logSlot bus (UInt32.ofNat i))

namespace LogRing

variable {bus : CoproBus} (h : LogRing bus)
include h

lemma entries_ne_zero : bus.logEntries ≠ 0 := by
  intro h0
  have hlt := h.head_lt
  rw [h0] at hlt
  exact Nat.not_lt_zero _ hlt

lemma toNat_logSlot {i : UInt32} (hi : i.toNat < bus.logEntries.toNat) :
    (logSlot bus i).toNat = bus.logOff.toNat + 16 * i.toNat := by
  have hf := h.fits
  have hlt := bus.ctlSize.toNat_lt
  simp only [logSlot, UInt32.toNat_add, UInt32.toNat_mul, UInt32.reduceToNat]
  omega

omit h in
lemma toNat_logNext {i : UInt32} (hi : i.toNat < bus.logEntries.toNat) :
    (logNext bus i).toNat = Ring.next bus.logEntries.toNat i.toNat := by
  have hlt := bus.logEntries.toNat_lt
  have hadd : (i + 1).toNat = i.toNat + 1 := by
    simp only [UInt32.toNat_add, UInt32.reduceToNat]
    omega
  unfold logNext Ring.next
  simp only [UInt32.le_iff_toNat_le, hadd]
  split_ifs
  · rfl
  · exact hadd

/-- **`coproBusLogPending` counts the entries the log holds.** -/
theorem length_pendingEntries :
    (pendingEntries bus).length = (coproBusLogPending bus).toNat := by
  have hh := h.head_lt
  have ht := h.tail_lt
  have hlt := bus.logEntries.toNat_lt
  rw [pendingEntries, pendingSlots, List.length_map, Ring.length_slots, Ring.dist,
    coproBusLogPending, if_neg h.entries_ne_zero]
  simp only [UInt32.le_iff_toNat_le]
  split_ifs with hle
  · rw [UInt32.toNat_sub_of_le _ _ (UInt32.le_iff_toNat_le.mpr hle)]
  · have hle' : bus.logHead ≤ bus.logTail := UInt32.le_iff_toNat_le.mpr (by omega)
    have hsub := UInt32.toNat_sub_of_le _ _ hle'
    rw [UInt32.toNat_sub_of_le _ _ (UInt32.le_iff_toNat_le.mpr (by omega)), hsub]

lemma length_pendingEntries_lt : (pendingEntries bus).length < bus.logEntries.toNat := by
  rw [pendingEntries, pendingSlots, List.length_map, Ring.length_slots]
  exact Ring.dist_lt h.tail_lt h.head_lt

lemma logEntryAt_eq {i : UInt32} (hi : i.toNat < bus.logEntries.toNat) :
    logEntryAt bus (logSlot bus i) = entryIn bus.ctl (logSlot bus i) := by
  have hs := h.toNat_logSlot hi
  have hf := h.fits
  have hlt := bus.ctlSize.toNat_lt
  have hw : ∀ k : UInt32, k.toNat + 4 ≤ 16 →
      ctlWord bus (logSlot bus i + k) = bus.ctl.word (logSlot bus i + k) := by
    intro k hk
    apply ctlWord_of_fits h.present
    rw [UInt32.toNat_add]
    omega
  simp only [logEntryAt, entryIn, hw 4 (by decide), hw 8 (by decide), hw 12 (by decide)]
  rw [show ctlWord bus (logSlot bus i) = bus.ctl.word (logSlot bus i) by
    simpa using hw 0 (by decide)]

lemma pendingEntries_eq :
    pendingEntries bus
      = (pendingSlots bus).map fun i => entryIn bus.ctl (logSlot bus (UInt32.ofNat i)) := by
  apply List.map_congr_left
  intro i hi
  have hlt := Ring.lt_of_mem_slots h.tail_lt h.head_lt hi
  have hsz := bus.logEntries.toNat_lt
  apply h.logEntryAt_eq
  rw [UInt32.toNat_ofNat_of_lt' (Nat.lt_trans hlt hsz)]
  exact hlt

end LogRing

/-! ## Pushing -/

def loggedEntry (bus : CoproBus) (cycle addr value info : UInt32) : CoproLogEntry where
  cycle := cycle
  addr := addr
  value := value
  info := if bus.logDropped ≠ 0 then info ||| coproLogInfoDropped else info

section Push

variable {bus : CoproBus} (h : LogRing bus) (cycle addr value info : UInt32)
include h

lemma logStore_eq :
    logStore bus cycle addr value info =
      { bus with
        ctl := storeEntry bus.ctl (logSlot bus bus.logHead) (loggedEntry bus cycle addr value info)
        logHead := logNext bus bus.logHead
        logDropped := 0 } := by
  have hs := h.toNat_logSlot h.head_lt
  have hf := h.fits
  have hh := h.head_lt
  have hlt := bus.ctlSize.toNat_lt
  have hset : ∀ (m : Block) (k w : UInt32), k.toNat + 4 ≤ 16 →
      ctlSetWord { bus with ctl := m } (logSlot bus bus.logHead + k) w
        = { bus with ctl := m.setWord (logSlot bus bus.logHead + k) w } := by
    intro m k w hk
    have hfit : (logSlot bus bus.logHead + k).toNat + 4 ≤ bus.ctlSize.toNat := by
      rw [UInt32.toNat_add]
      omega
    have hp : ({ bus with ctl := m } : CoproBus).ctlPresent = true := h.present
    exact ctlSetWord_of_fits hp hfit w
  have h0 := hset bus.ctl 0 cycle (by decide)
  rw [UInt32.add_zero] at h0
  rw [logStore, h0, hset _ 4 addr (by decide), hset _ 8 value (by decide), hset _ 12 _ (by decide)]
  rfl

lemma logNext_eq_tail_iff :
    logNext bus bus.logHead = bus.logTail
      ↔ (pendingEntries bus).length = bus.logEntries.toNat - 1 := by
  rw [← UInt32.toNat_inj, LogRing.toNat_logNext h.head_lt,
    Ring.next_eq_tail_iff h.tail_lt h.head_lt, pendingEntries, List.length_map, pendingSlots,
    Ring.length_slots]

/-- **A full ring only counts the write.** -/
lemma logPush_of_full (hfull : (pendingEntries bus).length = bus.logEntries.toNat - 1) :
    logPush bus cycle addr value info = { bus with logDropped := bus.logDropped + 1 } := by
  rw [logPush_eq, if_neg h.entries_ne_zero, if_pos ((logNext_eq_tail_iff h).mpr hfull)]

lemma logPush_of_room (hroom : (pendingEntries bus).length ≠ bus.logEntries.toNat - 1) :
    logPush bus cycle addr value info = logStore bus cycle addr value info := by
  rw [logPush_eq, if_neg h.entries_ne_zero,
    if_neg fun hc => hroom ((logNext_eq_tail_iff h).mp hc)]

lemma logRing_logStore : LogRing (logStore bus cycle addr value info) := by
  rw [logStore_eq h]
  refine ⟨h.present, h.fits, ?_, h.tail_lt⟩
  show (logNext bus bus.logHead).toNat < bus.logEntries.toNat
  rw [LogRing.toNat_logNext h.head_lt]
  exact Ring.next_lt h.head_lt

/-- **A ring with room appends the write.** -/
lemma pendingEntries_push (hroom : (pendingEntries bus).length ≠ bus.logEntries.toNat - 1) :
    pendingEntries (logStore bus cycle addr value info)
      = pendingEntries bus ++ [loggedEntry bus cycle addr value info] := by
  have hring := logRing_logStore h cycle addr value info
  have hfits := h.fits
  have hlt := bus.ctlSize.toNat_lt
  have hsz := bus.logEntries.toNat_lt
  have hhead := h.toNat_logSlot h.head_lt
  have hhlt := h.head_lt
  have hnext : Ring.next bus.logEntries.toNat bus.logHead.toNat ≠ bus.logTail.toNat := by
    rw [← LogRing.toNat_logNext h.head_lt, ne_eq, UInt32.toNat_inj]
    exact fun hc => hroom ((logNext_eq_tail_iff h).mp hc)
  rw [hring.pendingEntries_eq, h.pendingEntries_eq, logStore_eq h]
  simp only [pendingSlots]
  rw [LogRing.toNat_logNext h.head_lt, Ring.slots_push h.tail_lt h.head_lt hnext, List.map_append]
  congr 1
  · apply List.map_congr_left
    intro i hi
    have hilt := Ring.lt_of_mem_slots h.tail_lt h.head_lt hi
    have hne : i ≠ bus.logHead.toNat := by
      rintro rfl
      exact Ring.head_notMem_slots h.tail_lt h.head_lt hi
    have hi' : (UInt32.ofNat i).toNat = i := UInt32.toNat_ofNat_of_lt' (Nat.lt_trans hilt hsz)
    have hslot := h.toNat_logSlot (i := UInt32.ofNat i) (by omega)
    refine entryIn_storeEntry_of_apart _ _ (by omega) ?_ ?_
    · show (logSlot bus (UInt32.ofNat i)).toNat + 16 ≤ 2 ^ 32
      omega
    · show (logSlot bus (UInt32.ofNat i)).toNat + 16 ≤ _ ∨ _ ≤ (logSlot bus (UInt32.ofNat i)).toNat
      omega
  · simp only [List.map_cons, List.map_nil, UInt32.ofNat_toNat, List.cons.injEq, and_true]
    exact entryIn_storeEntry _ _ (by omega)

end Push

/-! ## Popping, and moving the tail -/

section Pop

variable {bus : CoproBus} (h : LogRing bus)
include h

/-- Moving the tail forward drops what it passes. -/
lemma pendingEntries_setTail {tail : UInt32} (ht : tail.toNat < bus.logEntries.toNat)
    (hle : Ring.dist bus.logEntries.toNat bus.logTail.toNat tail.toNat
      ≤ (pendingEntries bus).length) :
    pendingEntries { bus with logTail := tail } = (pendingEntries bus).drop
      (Ring.dist bus.logEntries.toNat bus.logTail.toNat tail.toNat) := by
  rw [pendingEntries, List.length_map, pendingSlots, Ring.length_slots] at hle
  simp only [pendingEntries, pendingSlots]
  rw [Ring.slots_skip h.tail_lt ht h.head_lt hle, List.map_drop]
  rfl

lemma logRing_setTail {tail : UInt32} (ht : tail.toNat < bus.logEntries.toNat) :
    LogRing { bus with logTail := tail } := ⟨h.present, h.fits, h.head_lt, ht⟩

omit h in
lemma coproBusLogPop_of_empty (he : bus.logTail = bus.logHead) : coproBusLogPop bus = (none, bus) := by
  simp [coproBusLogPop, he]

/-- **A pop takes the oldest entry.** -/
lemma pendingEntries_pop (hne : bus.logTail ≠ bus.logHead) :
    ∃ e bus', coproBusLogPop bus = (some e, bus') ∧ LogRing bus' ∧
      bus' = { bus with logTail := logNext bus bus.logTail } ∧
      pendingEntries bus = e :: pendingEntries bus' := by
  have hnext := LogRing.toNat_logNext h.tail_lt
  refine ⟨logEntryAt bus (logSlot bus bus.logTail), _, ?_, ?_, rfl, ?_⟩
  · simp [coproBusLogPop, hne, h.entries_ne_zero]
  · apply logRing_setTail h
    rw [hnext]
    exact Ring.next_lt h.tail_lt
  · have hne' : bus.logTail.toNat ≠ bus.logHead.toNat := fun hc => hne (UInt32.toNat_inj.mp hc)
    simp only [pendingEntries, pendingSlots]
    rw [Ring.slots_pop h.tail_lt h.head_lt hne', List.map_cons, UInt32.ofNat_toNat, hnext]
    rfl

lemma pendingEntries_eq_nil_iff : pendingEntries bus = [] ↔ bus.logTail = bus.logHead := by
  rw [← List.length_eq_zero_iff, pendingEntries, List.length_map, pendingSlots, Ring.length_slots,
    Ring.dist_eq_zero_iff h.tail_lt, UInt32.toNat_inj]

end Pop

end RpcEmu
