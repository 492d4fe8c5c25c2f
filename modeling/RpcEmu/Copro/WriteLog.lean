import RpcEmu.Copro.Answers
import RpcEmu.Copro.LogRing

/-!
# The write log is a bounded FIFO

The guest reads back, in order, the writes a core made to its logged regions.  The ring behind that
lives in memory the card shares with the region table and wraps either way round; what it is *for*
has none of that, and is written down as a history (`LogRun`).

**The result**, `writeLog_fifo`, is for every ring `coproBusSetLog` accepts clear of the region
table, and every interleaving of accesses, answers and pops.
-/

namespace RpcEmu

open Bytes Runs

/-! ## Calls and the log -/

/-- Only the RAM and the handshake differ. -/
def OutsideLog (bus bus' : CoproBus) : Prop :=
  ∃ (ram : Block) (h : Handshake), bus' = ({ bus with ram := ram } : CoproBus).setHandshake h

namespace OutsideLog

lemma refl (bus : CoproBus) : OutsideLog bus bus := ⟨bus.ram, bus.handshake, rfl⟩

lemma storeAt (bus : CoproBus) (value : UInt8) (store : Option UInt32) :
    OutsideLog bus (storeAt bus value store) := by
  cases store with
  | none => exact refl bus
  | some addr =>
    simp only [RpcEmu.storeAt, ramWrite]
    split_ifs
    · exact refl bus
    · exact ⟨_, bus.handshake, rfl⟩

variable {bus bus' : CoproBus} (h : OutsideLog bus bus')
include h

lemma logRing_iff : LogRing bus' ↔ LogRing bus := by
  obtain ⟨ram, hs, rfl⟩ := h
  exact ⟨fun ⟨hp, hf, hh, ht⟩ => ⟨hp, hf, hh, ht⟩, fun ⟨hp, hf, hh, ht⟩ => ⟨hp, hf, hh, ht⟩⟩

lemma pendingEntries_eq : pendingEntries bus' = pendingEntries bus := by
  obtain ⟨ram, hs, rfl⟩ := h
  rfl

lemma sameTable : SameTable bus bus' := by
  obtain ⟨ram, hs, rfl⟩ := h
  exact ⟨rfl, rfl, rfl, rfl, fun _ _ => rfl⟩

lemma ringFields : bus'.logOff = bus.logOff ∧ bus'.logEntries = bus.logEntries ∧
    bus'.logHead = bus.logHead ∧ bus'.logTail = bus.logTail ∧ bus'.logDropped = bus.logDropped := by
  obtain ⟨ram, hs, rfl⟩ := h
  exact ⟨rfl, rfl, rfl, rfl, rfl⟩

end OutsideLog

def loggedWrite (bus : CoproBus) : BusEvent → Option CoproLogEntry
  | .write addr isPort cycle value =>
    if bus.answers addr true then none
    else if (writeEffect bus addr isPort).logged then
      some ⟨cycle, addr, value.toUInt32, spaceInfo isPort⟩
    else none
  | .read _ _ => none
  | .resume _ => none

lemma writeEffect_result_of_logged {bus : CoproBus} {addr : UInt32} {isPort : Bool}
    (h : (writeEffect bus addr isPort).logged = true) :
    (writeEffect bus addr isPort).result = .ok := by
  revert h
  unfold writeEffect
  cases coproBusRegion bus addr isPort with
  | none => exact fun _ => rfl
  | some entry =>
    dsimp only
    cases coproRegionKind (regionFields bus entry).kind <;> simp

lemma outsideLog_perform {bus : CoproBus} {e : BusEvent} (hl : loggedWrite bus e = none) :
    OutsideLog bus (e.perform bus).2 := by
  cases e with
  | read addr isPort =>
    by_cases ha : bus.answers addr false
    · rw [BusEvent.perform, coproBusRead_of_answers isPort ha]
      exact ⟨bus.ram, { bus.handshake with answerValid := false }, rfl⟩
    · rw [BusEvent.perform, coproBusRead_of_not_answers isPort ha, decodedRead_eq]
      cases (readEffect bus addr isPort).1 with
      | ok => exact OutsideLog.refl bus
      | stall => exact ⟨bus.ram, (bus.waitFor addr false isPort 0).handshake, rfl⟩
      | busError => exact OutsideLog.refl bus
  | write addr isPort cycle value =>
    by_cases ha : bus.answers addr true
    · rw [BusEvent.perform, coproBusWrite_of_answers isPort cycle value ha]
      exact ⟨bus.ram, { bus.handshake with answerValid := false }, rfl⟩
    · have hnl : (writeEffect bus addr isPort).logged = false := by
        simpa [loggedWrite, ha] using hl
      rw [BusEvent.perform, coproBusWrite_of_not_answers isPort cycle value ha, decodedWrite_eq]
      simp only [WriteEffect.apply, hnl]
      cases (writeEffect bus addr isPort).result with
      | ok => exact OutsideLog.storeAt bus value _
      | stall => exact ⟨bus.ram, (bus.waitFor addr true isPort value.toUInt32).handshake, rfl⟩
      | busError => exact OutsideLog.refl bus
  | resume value =>
    cases hs : bus.stalled with
    | true =>
      rw [BusEvent.perform, coproBusResume_of_stalled hs]
      exact ⟨bus.ram, ⟨_, _, _, _, _, _, _, _, _⟩, rfl⟩
    | false =>
      rw [BusEvent.perform, coproBusResume_of_not_stalled hs]
      exact OutsideLog.refl bus

lemma perform_of_loggedWrite {bus : CoproBus} {e : BusEvent} {w : CoproLogEntry}
    (hl : loggedWrite bus e = some w) :
    ∃ bus', OutsideLog bus bus' ∧
      (e.perform bus).2 = logPush bus' w.cycle w.addr w.value w.info := by
  cases e with
  | read addr isPort => simp [loggedWrite] at hl
  | resume value => simp [loggedWrite] at hl
  | write addr isPort cycle value =>
    by_cases ha : bus.answers addr true
    · simp [loggedWrite, ha] at hl
    · by_cases hlog : (writeEffect bus addr isPort).logged = true
      · obtain rfl : (⟨cycle, addr, value.toUInt32, spaceInfo isPort⟩ : CoproLogEntry) = w := by
          simpa [loggedWrite, ha, hlog] using hl
        refine ⟨storeAt bus value (writeEffect bus addr isPort).store,
          OutsideLog.storeAt bus value _, ?_⟩
        rw [BusEvent.perform, coproBusWrite_of_not_answers isPort cycle value ha, decodedWrite_eq]
        simp only [WriteEffect.apply, writeEffect_result_of_logged hlog, hlog, if_true]
      · simp [loggedWrite, ha, hlog] at hl

/-- The ring is where it was, and the guest's tail too. -/
structure RingKept (bus bus' : CoproBus) : Prop where
  ring : LogRing bus'
  off : bus'.logOff = bus.logOff
  entries : bus'.logEntries = bus.logEntries
  tail : bus'.logTail = bus.logTail

lemma logStore_logHead_ne {bus : CoproBus} (h : LogRing bus) (cycle addr value info : UInt32)
    (hroom : (pendingEntries bus).length ≠ bus.logEntries.toNat - 1) :
    (logStore bus cycle addr value info).logHead ≠ bus.logHead := by
  have hhead : (logStore bus cycle addr value info).logHead = logNext bus bus.logHead := by
    rw [logStore_eq h]
  rw [hhead]
  intro hc
  have hn := LogRing.toNat_logNext h.head_lt
  have hlt := h.length_pendingEntries_lt
  have hhl := h.head_lt
  rw [hc] at hn
  unfold Ring.next at hn
  split_ifs at hn <;> omega

/-- **What a call does to the ring**: nothing, or one entry more. -/
theorem perform_ring_cases {bus : CoproBus} (h : LogRing bus) (e : BusEvent) :
    RingKept bus (e.perform bus).2 ∧
      ((pendingEntries (e.perform bus).2 = pendingEntries bus ∧
          (e.perform bus).2.logHead = bus.logHead) ∨
        ∃ w, loggedWrite bus e = some w ∧
          pendingEntries (e.perform bus).2
            = pendingEntries bus ++ [loggedEntry bus w.cycle w.addr w.value w.info] ∧
          (e.perform bus).2.logHead ≠ bus.logHead) := by
  cases hw : loggedWrite bus e with
  | none =>
    have ho := outsideLog_perform hw
    obtain ⟨hoff, hent, hhead, htail, -⟩ := ho.ringFields
    exact ⟨⟨ho.logRing_iff.mpr h, hoff, hent, htail⟩, Or.inl ⟨ho.pendingEntries_eq, hhead⟩⟩
  | some w =>
    obtain ⟨bus', ho, hperf⟩ := perform_of_loggedWrite hw
    have hring' := ho.logRing_iff.mpr h
    have hpend' := ho.pendingEntries_eq
    obtain ⟨hoff, hent, hhead, htail, hdrop⟩ := ho.ringFields
    rw [hperf]
    by_cases hfull : (pendingEntries bus').length = bus'.logEntries.toNat - 1
    · rw [logPush_of_full hring' _ _ _ _ hfull]
      refine ⟨⟨?_, hoff, hent, htail⟩, Or.inl ⟨hpend', hhead⟩⟩
      exact ⟨hring'.present, hring'.fits, hring'.head_lt, hring'.tail_lt⟩
    · rw [logPush_of_room hring' _ _ _ _ hfull]
      have heq := logStore_eq hring' w.cycle w.addr w.value w.info
      refine ⟨⟨logRing_logStore hring' _ _ _ _, ?_, ?_, ?_⟩, Or.inr ⟨w, rfl, ?_, ?_⟩⟩
      · rw [heq]
        exact hoff
      · rw [heq]
        exact hent
      · rw [heq]
        exact htail
      · rw [pendingEntries_push hring' _ _ _ _ hfull, hpend', loggedEntry, loggedEntry, hdrop]
      · exact fun hc => logStore_logHead_ne hring' _ _ _ _ hfull (hc.trans hhead.symm)

/-! ## The history -/

inductive LogEvent
  | call (e : BusEvent)
  | pop
  deriving DecidableEq, Repr

structure LogRun where
  bus : CoproBus
  /-- the logged writes the ring accepted, as they are to be read back -/
  accepted : List CoproLogEntry
  /-- the entries popped -/
  popped : List CoproLogEntry
  /-- the logged writes refused since the last one accepted -/
  refused : Nat

namespace LogRun

def start (bus : CoproBus) : LogRun := ⟨bus, [], [], 0⟩

def shown (g : LogRun) (w : CoproLogEntry) : CoproLogEntry :=
  if g.refused = 0 then w else { w with info := w.info ||| coproLogInfoDropped }

/-- The event adds an entry. -/
def accepts (g : LogRun) (e : BusEvent) : Prop := (e.perform g.bus).2.logHead ≠ g.bus.logHead

instance (g : LogRun) (e : BusEvent) : Decidable (g.accepts e) :=
  inferInstanceAs (Decidable (_ ≠ _))

def step (g : LogRun) : LogEvent → LogRun
  | .call e =>
    match loggedWrite g.bus e with
    | none => { g with bus := (e.perform g.bus).2 }
    | some w =>
      if g.accepts e then
        { g with bus := (e.perform g.bus).2, accepted := g.accepted ++ [g.shown w], refused := 0 }
      else { g with bus := (e.perform g.bus).2, refused := g.refused + 1 }
  | .pop =>
    match coproBusLogPop g.bus with
    | (none, bus) => { g with bus := bus }
    | (some e, bus) => { g with bus := bus, popped := g.popped ++ [e] }

end LogRun

/-- **What a log of `n` slots on `bus` promises of a state reached.**  The last field is why the
ring must keep clear of the table: which writes are logged never changes. -/
structure FaithfulFifo (bus : CoproBus) (n : UInt32) (g : LogRun) : Prop where
  head_lt : g.bus.logHead < n
  tail_lt : g.bus.logTail < n
  pending_le : (coproBusLogPending g.bus).toNat ≤ n.toNat - 1
  pending_eq : g.accepted.length = g.popped.length + (coproBusLogPending g.bus).toNat
  in_order : g.popped <+: g.accepted
  decode : ∀ addr isPort, writeEffect g.bus addr isPort = writeEffect bus addr isPort

/-- **What it promises of a step**: a logged write is accepted exactly when fewer than `n - 1`
entries are pending, and a pop fails exactly when none is. -/
def FifoStep (n : UInt32) (g : LogRun) : LogEvent → Prop
  | .call e => ∀ w, loggedWrite g.bus e = some w →
      (g.accepts e ↔ (coproBusLogPending g.bus).toNat < n.toNat - 1)
  | .pop => (coproBusLogPop g.bus).1 = none ↔ coproBusLogPending g.bus = 0

/-- The log's bytes are none of the table's. -/
def ClearOfTable (bus : CoproBus) (offset entries : UInt32) : Prop :=
  ∀ b, TableByte bus b →
    b.toNat < offset.toNat ∨ offset.toNat + 16 * entries.toNat ≤ b.toNat

/-! ## The invariant -/

/-- The ring holds the entries accepted and not popped, and the count those refused. -/
structure LogInv (bus : CoproBus) (offset n : UInt32) (g : LogRun) : Prop where
  ring : LogRing g.bus
  off : g.bus.logOff = offset
  entries : g.bus.logEntries = n
  contents : g.accepted = g.popped ++ pendingEntries g.bus
  dropped : g.bus.logDropped.toNat = g.refused % 2 ^ 32
  table : SameTable bus g.bus

namespace LogInv

variable {bus : CoproBus} {offset n : UInt32} {g : LogRun}

lemma faithful (h : LogInv bus offset n g) : FaithfulFifo bus n g where
  head_lt := by
    rw [UInt32.lt_iff_toNat_lt, ← h.entries]
    exact h.ring.head_lt
  tail_lt := by
    rw [UInt32.lt_iff_toNat_lt, ← h.entries]
    exact h.ring.tail_lt
  pending_le := by
    have hlt := h.ring.length_pendingEntries_lt
    rw [h.ring.length_pendingEntries, h.entries] at hlt
    omega
  pending_eq := by
    rw [h.contents, List.length_append, h.ring.length_pendingEntries]
  in_order := ⟨_, h.contents.symm⟩
  decode := h.table.writeEffect_eq

lemma of_outsideLog (h : LogInv bus offset n g) {bus' : CoproBus} (ho : OutsideLog g.bus bus') :
    LogInv bus offset n { g with bus := bus' } := by
  obtain ⟨hoff, hent, -, -, hdrop⟩ := ho.ringFields
  refine ⟨ho.logRing_iff.mpr h.ring, ?_, ?_, ?_, ?_, h.table.trans ho.sameTable⟩
  · exact hoff.trans h.off
  · exact hent.trans h.entries
  · show g.accepted = g.popped ++ pendingEntries bus'
    rw [ho.pendingEntries_eq]
    exact h.contents
  · show bus'.logDropped.toNat = g.refused % 2 ^ 32
    rw [hdrop]
    exact h.dropped

lemma sameTable_logStore (h : LogInv bus offset n g) (hclear : ClearOfTable bus offset n)
    (cycle addr value info : UInt32) : SameTable g.bus (logStore g.bus cycle addr value info) := by
  rw [logStore_eq h.ring]
  refine ⟨rfl, rfl, rfl, rfl, fun b hb => ?_⟩
  have hslot := h.ring.toNat_logSlot h.ring.head_lt
  have hhead := h.ring.head_lt
  have hfits := h.ring.fits
  have hlt := g.bus.ctlSize.toNat_lt
  have hout := hclear b ((h.table.tableByte_iff b).mp hb)
  have hoff := congrArg UInt32.toNat h.off
  have hent := congrArg UInt32.toNat h.entries
  exact storeEntry_of_outside _ _ (by omega) (by omega)

lemma of_full (h : LogInv bus offset n g)
    (hfull : (pendingEntries g.bus).length = g.bus.logEntries.toNat - 1)
    (cycle addr value info : UInt32) :
    (logPush g.bus cycle addr value info).logHead = g.bus.logHead ∧
      LogInv bus offset n
        { g with bus := logPush g.bus cycle addr value info, refused := g.refused + 1 } := by
  rw [logPush_of_full h.ring cycle addr value info hfull]
  refine ⟨rfl, ⟨h.ring.present, h.ring.fits, h.ring.head_lt, h.ring.tail_lt⟩, h.off, h.entries,
    h.contents, ?_, h.table.trans ⟨rfl, rfl, rfl, rfl, fun _ _ => rfl⟩⟩
  have hd := h.dropped
  simp only [UInt32.toNat_add, UInt32.reduceToNat]
  omega

lemma of_room (h : LogInv bus offset n g) (hclear : ClearOfTable bus offset n)
    (hroom : (pendingEntries g.bus).length ≠ g.bus.logEntries.toNat - 1)
    (hrefused : g.refused < 2 ^ 32) (w : CoproLogEntry) :
    (logPush g.bus w.cycle w.addr w.value w.info).logHead ≠ g.bus.logHead ∧
      LogInv bus offset n
        { g with bus := logPush g.bus w.cycle w.addr w.value w.info,
                 accepted := g.accepted ++ [g.shown w], refused := 0 } := by
  have hpush := pendingEntries_push h.ring w.cycle w.addr w.value w.info hroom
  have hring := logRing_logStore h.ring w.cycle w.addr w.value w.info
  have htable := h.sameTable_logStore hclear w.cycle w.addr w.value w.info
  have heq := logStore_eq h.ring w.cycle w.addr w.value w.info
  have hshown : loggedEntry g.bus w.cycle w.addr w.value w.info = g.shown w := by
    have hd := h.dropped
    rw [Nat.mod_eq_of_lt hrefused] at hd
    have hz : g.bus.logDropped ≠ 0 ↔ ¬ g.refused = 0 := by
      rw [ne_eq, ← UInt32.toNat_inj, hd]
      rfl
    unfold loggedEntry LogRun.shown
    by_cases hr : g.refused = 0
    · rw [if_neg (fun hc => hz.mp hc hr), if_pos hr]
    · rw [if_pos (hz.mpr hr), if_neg hr]
  rw [logPush_of_room h.ring w.cycle w.addr w.value w.info hroom]
  refine ⟨logStore_logHead_ne h.ring _ _ _ _ hroom, ⟨hring, ?_, ?_, ?_, ?_, h.table.trans htable⟩⟩
  · rw [heq]
    exact h.off
  · rw [heq]
    exact h.entries
  · show g.accepted ++ [g.shown w] = _
    rw [hpush, hshown, h.contents, List.append_assoc]
  · rw [heq]
    rfl

lemma accepts_iff (h : LogInv bus offset n g) (hclear : ClearOfTable bus offset n)
    (hrefused : g.refused < 2 ^ 32) {e : BusEvent} {w : CoproLogEntry}
    (hw : loggedWrite g.bus e = some w) :
    (g.accepts e ↔ (coproBusLogPending g.bus).toNat < n.toNat - 1) ∧
      LogInv bus offset n (g.step (.call e)) := by
  obtain ⟨bus', ho, hperf⟩ := perform_of_loggedWrite hw
  have h' := h.of_outsideLog ho
  have hlen := h.ring.length_pendingEntries
  have hlt := h.ring.length_pendingEntries_lt
  have hent := congrArg UInt32.toNat h.entries
  have hsame := ho.pendingEntries_eq
  obtain ⟨-, hent', hhead, -, -⟩ := ho.ringFields
  simp only [LogRun.step, hw]
  by_cases hfull : (pendingEntries bus').length = bus'.logEntries.toNat - 1
  · obtain ⟨hstay, hinv⟩ := h'.of_full hfull w.cycle w.addr w.value w.info
    have hna : ¬ g.accepts e := by
      unfold LogRun.accepts
      rw [hperf, not_not]
      exact hstay.trans hhead
    rw [if_neg hna]
    rw [hsame, hent'] at hfull
    refine ⟨iff_of_false hna (by omega), ?_⟩
    rw [hperf]
    exact hinv
  · obtain ⟨hmove, hinv⟩ := h'.of_room hclear hfull hrefused w
    have ha : g.accepts e := by
      unfold LogRun.accepts
      rw [hperf]
      exact fun hc => hmove (hc.trans hhead.symm)
    rw [if_pos ha]
    rw [hsame, hent'] at hfull
    refine ⟨iff_of_true ha (by omega), ?_⟩
    rw [hperf]
    exact hinv

lemma step_pop (h : LogInv bus offset n g) :
    ((coproBusLogPop g.bus).1 = none ↔ coproBusLogPending g.bus = 0) ∧
      LogInv bus offset n (g.step .pop) := by
  have hlen := h.ring.length_pendingEntries
  by_cases he : g.bus.logTail = g.bus.logHead
  · have hpop := coproBusLogPop_of_empty he
    have hnil := (pendingEntries_eq_nil_iff h.ring).mpr he
    rw [hnil] at hlen
    have hzero : coproBusLogPending g.bus = 0 := UInt32.toNat_inj.mp hlen.symm
    simp only [LogRun.step, hpop]
    exact ⟨iff_of_true trivial hzero, h⟩
  · obtain ⟨e, bus', hpop, hring, hbus, hcons⟩ := pendingEntries_pop h.ring he
    have hne : coproBusLogPending g.bus ≠ 0 := by
      intro hz
      rw [hz, hcons] at hlen
      exact Nat.succ_ne_zero _ hlen
    simp only [LogRun.step, hpop]
    refine ⟨iff_of_false (by simp) hne, hring, ?_, ?_, ?_, ?_, ?_⟩
    · rw [hbus]
      exact h.off
    · rw [hbus]
      exact h.entries
    · show g.accepted = (g.popped ++ [e]) ++ pendingEntries bus'
      rw [h.contents, hcons, List.append_assoc, List.singleton_append]
    · rw [hbus]
      exact h.dropped
    · rw [hbus]
      exact h.table.trans ⟨rfl, rfl, rfl, rfl, fun _ _ => rfl⟩

/-- **Every event keeps the invariant**, and every logged write and pop does what it should. -/
lemma step_ok (h : LogInv bus offset n g) (hclear : ClearOfTable bus offset n)
    (hrefused : g.refused < 2 ^ 32) (e : LogEvent) :
    FifoStep n g e ∧ LogInv bus offset n (g.step e) := by
  cases e with
  | pop => exact h.step_pop
  | call e =>
    cases hw : loggedWrite g.bus e with
    | none =>
      refine ⟨fun w hc => ?_, ?_⟩
      · rw [hw] at hc
        exact absurd hc (by simp)
      · simp only [LogRun.step, hw]
        exact h.of_outsideLog (outsideLog_perform hw)
    | some w =>
      obtain ⟨hiff, hinv⟩ := h.accepts_iff hclear hrefused hw
      refine ⟨fun w' _ => hiff, hinv⟩

end LogInv

lemma coproBusSetLog_accepted {bus : CoproBus} {offset entries : UInt32} (hn : entries ≠ 0)
    (h : (coproBusSetLog bus offset entries).1 = true) :
    bus.ctlPresent = true ∧ offset.toNat + 16 * entries.toNat ≤ bus.ctlSize.toNat ∧
      (coproBusSetLog bus offset entries).2 =
        { bus with logOff := offset, logEntries := entries, logHead := 0, logTail := 0,
                   logDropped := 0 } := by
  unfold coproBusSetLog at h ⊢
  rw [if_neg hn] at h ⊢
  split_ifs at h ⊢ with hp hq ho
  refine ⟨by simpa using hp, ?_, rfl⟩
  simp only [entrySize] at hq ho
  have hle : entries.toNat * 16 ≤ bus.ctlSize.toNat := by
    have := Nat.div_mul_le_self bus.ctlSize.toNat 16
    have := Nat.mul_le_mul_right 16 (Nat.le_of_not_lt hq)
    omega
  omega

lemma logInv_start {bus : CoproBus} {offset entries : UInt32} (hn : entries ≠ 0)
    (h : (coproBusSetLog bus offset entries).1 = true) :
    LogInv bus offset entries (LogRun.start (coproBusSetLog bus offset entries).2) := by
  obtain ⟨hp, hfits, hbus⟩ := coproBusSetLog_accepted hn h
  have hpos : 0 < entries.toNat := by
    rcases Nat.eq_zero_or_pos entries.toNat with hz | hpos
    · exact absurd (UInt32.toNat_inj.mp hz) hn
    · exact hpos
  rw [hbus]
  have hring : LogRing { bus with logOff := offset, logEntries := entries, logHead := 0,
                                  logTail := 0, logDropped := 0 } := ⟨hp, hfits, hpos, hpos⟩
  refine ⟨hring, rfl, rfl, ?_, rfl, ⟨rfl, rfl, rfl, rfl, fun _ _ => rfl⟩⟩
  exact ((pendingEntries_eq_nil_iff hring).mpr rfl).symm

/-- **The write log is a faithful bounded FIFO.**  For every ring accepted clear of the table, and
every run in which no 2^32 logged writes are refused in a row, every step does what a FIFO's step
does and every state reached is one of a FIFO. -/
theorem writeLog_fifo (bus : CoproBus) (offset n : UInt32) (hn : n ≠ 0)
    (hset : (coproBusSetLog bus offset n).1 = true) (hclear : ClearOfTable bus offset n)
    (es : List LogEvent)
    (hrefused : Along LogRun.step (fun g _ => g.refused < 2 ^ 32)
      (LogRun.start (coproBusSetLog bus offset n).2) es) :
    Along LogRun.step (FifoStep n) (LogRun.start (coproBusSetLog bus offset n).2) es ∧
      FaithfulFifo bus n
        (exec LogRun.step (LogRun.start (coproBusSetLog bus offset n).2) es) := by
  have hstart := logInv_start hn hset
  have hstep : ∀ (g : LogRun) (e : LogEvent), LogInv bus offset n g → g.refused < 2 ^ 32 →
      FifoStep n g e ∧ LogInv bus offset n (g.step e) :=
    fun g e hg hr => hg.step_ok hclear hr e
  constructor
  · exact along_of_inv (fun g e hg hr => (hstep g e hg hr).2)
      (fun g e hg hr => (hstep g e hg hr).1) es _ hstart hrefused
  · have hend : LogInv bus offset n (exec LogRun.step _ es) :=
      exec_inv (fun g e hg hr => (hstep g e hg hr).2) es _ hstart hrefused
    exact hend.faithful

def logRegionBus : CoproBus :=
  let zero : Block := fun _ => 0
  let ctl := ((zero.setWord 0 0x200).setWord 4 0x100).setWord 8 2
  { coproBusInit zero true 0x10000 ctl true 0x1000 with mapCount := 1 }

private lemma logRegionBus_clear : ClearOfTable logRegionBus 0x40 2 := by
  rintro b ⟨i, hi, k, hk, rfl⟩
  obtain rfl : i = 0 := Nat.lt_one_iff.mp hi
  left
  show (0 + UInt32.ofNat 0 * 16 + UInt32.ofNat k).toNat < 64
  interval_cases k <;> decide

theorem writeLog_two_slots :
    FaithfulFifo logRegionBus 2
      (exec LogRun.step (LogRun.start (coproBusSetLog logRegionBus 0x40 2).2)
        [.call (.write 0x210 false 7 1), .call (.write 0x211 false 8 2), .pop,
          .call (.write 0x212 false 9 3)]) :=
  (writeLog_fifo logRegionBus 0x40 2 (by decide) (by decide) logRegionBus_clear _ (by decide)).2

end RpcEmu
