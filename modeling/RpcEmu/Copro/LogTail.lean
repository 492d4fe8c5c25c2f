import RpcEmu.Copro.CardRun
import RpcEmu.Cpu.Rv32i

/-!
# The tail the guest writes

The guest reads the log by moving its tail, and the tail is a register it may write any value to.
What it is to be shown, from the tail to the head, is the writes that were logged and that the tail
has not passed.

**The gap.**  LOGTAIL is checked against the size of the ring and not against the head, so a tail
beyond the head brings back slots nothing was written to.  The steps that show the guest something
wrong are exactly those (`tail_shows_logged_iff`).
-/

namespace RpcEmu

open Runs

inductive TailEvent
  | call (e : BusEvent)
  | logTail (size : OpenbusSize) (val : UInt32)

def TailEvent.toCard : TailEvent → CardEvent
  | call e => .access e
  | logTail size val => .regWrite 0x6c size val

/-- A card, and the entries logged and not yet passed: a logged write adds one at the end, a tail that moves forward
takes as many off the front as it walks past. -/
structure TailRun (σ η : Type) where
  card : Coproc σ η
  held : List CoproLogEntry

variable {σ η : Type} (ops : CoreOps σ) (host : HostBus η)

namespace TailRun

def logged (bus bus' : CoproBus) : TailEvent → List CoproLogEntry
  | .call e =>
    match loggedWrite bus e with
    | none => []
    | some w =>
      if bus'.logHead ≠ bus.logHead then [loggedEntry bus w.cycle w.addr w.value w.info] else []
  | .logTail _ _ => []

def step (g : TailRun σ η) (e : TailEvent) : TailRun σ η :=
  let card := cardStep ops host g.card e.toCard
  { card := card
    held := g.held.drop (Ring.dist g.card.bus.logEntries.toNat g.card.bus.logTail.toNat
        card.bus.logTail.toNat) ++ logged g.card.bus card.bus e }

/-- **What a step owes the guest.**  Afterwards the slots between tail and head hold what was logged
and not passed, and there are more of them only if a write was logged. -/
def ShownRight (g : TailRun σ η) (e : TailEvent) : Prop :=
  pendingEntries (g.step ops host e).card.bus = (g.step ops host e).held ∧
    (logged g.card.bus (g.step ops host e).card.bus e = [] →
      coproBusLogPending (g.step ops host e).card.bus ≤ coproBusLogPending g.card.bus)

/-- The guest's tail does not pass what is pending. -/
def TailBehindHead (g : TailRun σ η) : TailEvent → Prop
  | .call _ => True
  | .logTail _ val =>
    val < g.card.bus.logEntries →
      Ring.dist g.card.bus.logEntries.toNat g.card.bus.logTail.toNat val.toNat
        ≤ (coproBusLogPending g.card.bus).toNat

/-- What is pending is what has been logged and not taken. -/
structure Holds (g : TailRun σ η) : Prop where
  ring : LogRing g.card.bus
  held : pendingEntries g.card.bus = g.held

variable {g : TailRun σ η}

/-! ## Calls on the bus -/

lemma step_call_bus (e : BusEvent) :
    (g.step ops host (.call e)).card.bus = (e.perform g.card.bus).2 := rfl

lemma step_call_held (e : BusEvent) (ht : (e.perform g.card.bus).2.logTail = g.card.bus.logTail) :
    (g.step ops host (.call e)).held
      = g.held ++ logged g.card.bus (e.perform g.card.bus).2 (.call e) := by
  show g.held.drop (Ring.dist _ _ (e.perform g.card.bus).2.logTail.toNat) ++ _ = _
  rw [ht, Ring.dist_self, List.drop_zero]
  rfl

lemma call_shown (h : g.Holds) (e : BusEvent) :
    g.ShownRight ops host (.call e) ∧ (g.step ops host (.call e)).Holds := by
  obtain ⟨hkept, hcases⟩ := perform_ring_cases h.ring e
  have hring : LogRing (g.step ops host (.call e)).card.bus := hkept.ring
  have hheld := step_call_held ops host e hkept.tail
  rcases hcases with ⟨hpend, hhead⟩ | ⟨w, hw, hpend, hmove⟩
  · have hlog : logged g.card.bus (e.perform g.card.bus).2 (.call e) = [] := by
      have hstay : ¬ (e.perform g.card.bus).2.logHead ≠ g.card.bus.logHead := not_not.mpr hhead
      simp only [logged]
      split
      · rfl
      · exact if_neg hstay
    have hsame : pendingEntries (g.step ops host (.call e)).card.bus
        = (g.step ops host (.call e)).held := by
      rw [step_call_bus, hheld, hlog, List.append_nil, hpend, h.held]
    refine ⟨⟨hsame, fun _ => ?_⟩, hring, hsame⟩
    rw [UInt32.le_iff_toNat_le, ← hring.length_pendingEntries, ← h.ring.length_pendingEntries,
      step_call_bus, hpend]
  · have hlog : logged g.card.bus (e.perform g.card.bus).2 (.call e)
        = [loggedEntry g.card.bus w.cycle w.addr w.value w.info] := by
      simp only [logged, hw, if_pos hmove]
    have hsame : pendingEntries (g.step ops host (.call e)).card.bus
        = (g.step ops host (.call e)).held := by
      rw [step_call_bus, hheld, hlog, hpend, h.held]
    refine ⟨⟨hsame, fun hnil => ?_⟩, hring, hsame⟩
    rw [step_call_bus, hlog] at hnil
    exact absurd hnil (by simp)

/-! ## Moving the tail -/

lemma step_logTail_bus (size : OpenbusSize) (val : UInt32) :
    (g.step ops host (.logTail size val)).card.bus
      = if decide (g.card.bus.logEntries ≠ 0) && decide (val < g.card.bus.logEntries) then
          { g.card.bus with logTail := val }
        else g.card.bus :=
  coprocRegWrite_bus ops host g.card 0x6c size val

lemma logTail_shown (h : g.Holds) (size : OpenbusSize) (val : UInt32) :
    (g.TailBehindHead (.logTail size val) ↔ g.ShownRight ops host (.logTail size val)) ∧
      (g.TailBehindHead (.logTail size val) → (g.step ops host (.logTail size val)).Holds) := by
  have hbus := step_logTail_bus ops host size val (g := g)
  by_cases hv : val < g.card.bus.logEntries
  · have hv' := UInt32.lt_iff_toNat_lt.mp hv
    have hc : (decide (g.card.bus.logEntries ≠ 0) && decide (val < g.card.bus.logEntries)) = true := by
      simp [h.ring.entries_ne_zero, hv]
    rw [if_pos hc] at hbus
    have hring : LogRing (g.step ops host (.logTail size val)).card.bus := by
      rw [hbus]
      exact logRing_setTail h.ring hv'
    have hheld : (g.step ops host (.logTail size val)).held = g.held.drop
        (Ring.dist g.card.bus.logEntries.toNat g.card.bus.logTail.toNat val.toNat) := by
      show g.held.drop (Ring.dist _ _ (g.step ops host (.logTail size val)).card.bus.logTail.toNat)
        ++ [] = _
      rw [hbus, List.append_nil]
    have hlen := h.ring.length_pendingEntries
    by_cases hle : Ring.dist g.card.bus.logEntries.toNat g.card.bus.logTail.toNat val.toNat
        ≤ (coproBusLogPending g.card.bus).toNat
    · have hpend := pendingEntries_setTail h.ring hv' (by rw [hlen]; exact hle)
      have hsame : pendingEntries (g.step ops host (.logTail size val)).card.bus
          = (g.step ops host (.logTail size val)).held := by
        rw [hheld, hbus, hpend, h.held]
      refine ⟨iff_of_true (fun _ => hle) ⟨hsame, fun _ => ?_⟩, fun _ => ⟨hring, hsame⟩⟩
      rw [UInt32.le_iff_toNat_le, ← hring.length_pendingEntries, ← hlen, hbus, hpend,
        List.length_drop]
      omega
    · -- past the head: nothing is left to show, and the ring is not empty
      have hbad : ¬ g.TailBehindHead (.logTail size val) := fun hb => hle (hb hv)
      refine ⟨iff_of_false hbad fun hs => ?_, fun hb => absurd hb hbad⟩
      have hnil : (g.step ops host (.logTail size val)).held = [] := by
        rw [hheld, List.drop_eq_nil_iff, ← h.held, hlen]
        omega
      have hover := Ring.dist_overtake h.ring.tail_lt hv' (by
        rw [pendingEntries, List.length_map, pendingSlots, Ring.length_slots] at hlen
        omega : Ring.dist _ _ g.card.bus.logHead.toNat < _)
      have hempty := congrArg List.length (hs.1.trans hnil)
      rw [hbus, pendingEntries, List.length_map, pendingSlots, Ring.length_slots,
        List.length_nil] at hempty
      exact absurd hempty (Nat.pos_iff_ne_zero.mp hover)
  · have hc : (decide (g.card.bus.logEntries ≠ 0) && decide (val < g.card.bus.logEntries)) ≠ true := by
      simp [hv]
    rw [if_neg hc] at hbus
    have hheld : (g.step ops host (.logTail size val)).held = g.held := by
      show g.held.drop (Ring.dist _ _ (g.step ops host (.logTail size val)).card.bus.logTail.toNat)
        ++ [] = _
      rw [hbus, Ring.dist_self, List.drop_zero, List.append_nil]
    have hsame : pendingEntries (g.step ops host (.logTail size val)).card.bus
        = (g.step ops host (.logTail size val)).held := by rw [hheld, hbus, h.held]
    refine ⟨iff_of_true (fun hlt => absurd hlt hv) ⟨hsame, fun _ => ?_⟩, fun _ => ⟨?_, hsame⟩⟩
    · rw [hbus]
      exact UInt32.le_refl _
    · rw [hbus]
      exact h.ring

/-- **One event.** -/
lemma shown_iff (h : g.Holds) (e : TailEvent) :
    (g.TailBehindHead e ↔ g.ShownRight ops host e) ∧
      (g.TailBehindHead e → (g.step ops host e).Holds) := by
  cases e with
  | call e =>
    obtain ⟨hs, hh⟩ := call_shown ops host h e
    exact ⟨iff_of_true trivial hs, fun _ => hh⟩
  | logTail size val => exact logTail_shown ops host h size val

def setUp (cp : Coproc σ η) (size : OpenbusSize) (n : UInt32) : TailRun σ η where
  card := coprocRegWrite ops host cp 0x64 size n
  held := []

lemma holds_setUp {cp : Coproc σ η} {size : OpenbusSize} {n : UInt32} (hn : n ≠ 0)
    (hset : (coproBusSetLog cp.bus cp.bus.logOff n).1 = true) :
    (setUp ops host cp size n).Holds := by
  have hinv := logInv_start hn hset
  exact ⟨hinv.ring, hinv.contents.symm⟩

end TailRun

/-- **The guest is shown what was logged and not passed, exactly along the runs in which the tail
never passes the head.**  From a ring just set up on any card. -/
theorem tail_shows_logged_iff (cp : Coproc σ η) (size : OpenbusSize) (n : UInt32) (hn : n ≠ 0)
    (hset : (coproBusSetLog cp.bus cp.bus.logOff n).1 = true) (es : List TailEvent) :
    Along (TailRun.step ops host) (TailRun.ShownRight ops host) (TailRun.setUp ops host cp size n) es
      ↔ Along (TailRun.step ops host) TailRun.TailBehindHead (TailRun.setUp ops host cp size n)
        es := by
  symm
  refine along_iff_of_inv (I := TailRun.Holds) ?_ ?_ es _ (TailRun.holds_setUp ops host hn hset)
  · intro g e hg hc
    exact (TailRun.shown_iff ops host hg e).2 hc
  · intro g e hg
    exact (TailRun.shown_iff ops host hg e).1

def logCard : Coproc Rv32iState Unit := rv32iCard.setBus { logRegionBus with logOff := 0x40 }

theorem tail_shows_two_writes :
    Along (TailRun.step rv32iOps emptyHost) (TailRun.ShownRight rv32iOps emptyHost)
      (TailRun.setUp rv32iOps emptyHost logCard .size32 4)
      [.call (.write 0x210 false 7 1), .call (.write 0x211 false 8 2), .logTail .size32 1,
        .logTail .size32 9] := by
  refine (tail_shows_logged_iff rv32iOps emptyHost logCard .size32 4 (by decide) (by decide) _).mpr ?_
  simp only [along_cons, along_nil, and_true]
  exact ⟨trivial, trivial, fun _ => by decide, fun hlt => absurd hlt (by decide)⟩

/-- **The gap.**  With the ring empty, LOGTAIL = 1 makes three slots pending that nothing was written
to. -/
theorem tail_shows_unwritten :
    ¬ ∀ es : List TailEvent,
      Along (TailRun.step rv32iOps emptyHost) (TailRun.ShownRight rv32iOps emptyHost)
        (TailRun.setUp rv32iOps emptyHost logCard .size32 4) es := by
  intro h
  have hrun := h [.logTail .size32 1]
  simp only [along_cons, along_nil, and_true] at hrun
  exact absurd hrun.1 (by decide)

end RpcEmu
