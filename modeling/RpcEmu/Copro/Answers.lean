import RpcEmu.Lib.Runs
import RpcEmu.Copro.BusFacts

/-!
# Which access an answer reaches

An access to a stalling region waits for the guest.  The guest answers (`coproBusResume`), the
core retries the whole instruction, and the bus hands the answer to the access it was given for —
or is meant to.  Between the two lie arbitrarily many other accesses: the retried instruction's own
opcode fetches, and accesses in the other address space.

The bus does not say which access an answer was given for, nor which answers are spent, so this is
recorded beside it in an `AnswerRun`: every answer gets a serial number and the access that was
waiting when it was given.

**The gap.**  `takeAnswer` compares the address and the direction, and not the space.  The rule is
kept exactly along the runs that never bring a pending answer together with an access to the same
number in the other space (`AnswerRun.SameSpace`).
-/

namespace RpcEmu

open Runs

structure BusAccess where
  addr : UInt32
  isWrite : Bool
  isPort : Bool
  deriving DecidableEq, Repr

inductive BusEvent
  | read (addr : UInt32) (isPort : Bool)
  | write (addr : UInt32) (isPort : Bool) (cycle : UInt32) (value : UInt8)
  | resume (value : UInt8)
  deriving DecidableEq, Repr

namespace BusEvent

def access : BusEvent → Option BusAccess
  | read addr isPort => some ⟨addr, false, isPort⟩
  | write addr isPort _ _ => some ⟨addr, true, isPort⟩
  | resume _ => none

def perform (bus : CoproBus) : BusEvent → (CoproBusResult × UInt8) × CoproBus
  | read addr isPort =>
    let (res, value, bus) := coproBusRead bus addr isPort
    ((res, value), bus)
  | write addr isPort cycle value =>
    let (res, bus) := coproBusWrite bus addr isPort cycle value
    ((res, 0), bus)
  | resume value =>
    let (value, bus) := coproBusResume bus value
    ((.ok, value), bus)

end BusEvent

structure AnswerRun where
  bus : CoproBus
  /-- the last access that stalled -/
  waiting : Option BusAccess
  /-- how many answers the guest has given -/
  given : Nat
  /-- the last answer given, and the access that was waiting for it -/
  answer : Option (Nat × BusAccess)
  /-- the answers that some access has taken -/
  taken : List Nat

namespace AnswerRun

def start (bus : CoproBus) : AnswerRun where
  bus := bus
  waiting := none
  given := 0
  answer := none
  taken := []

def takes (g : AnswerRun) (e : BusEvent) : Bool :=
  g.bus.answerValid && !(e.perform g.bus).2.answerValid

def step (g : AnswerRun) (e : BusEvent) : AnswerRun where
  bus := (e.perform g.bus).2
  waiting := if (e.perform g.bus).1.1 = .stall then e.access else g.waiting
  given := if e.access = none && g.bus.stalled then g.given + 1 else g.given
  answer :=
    if e.access = none && g.bus.stalled then g.waiting.map (Prod.mk g.given) else g.answer
  taken := if g.takes e then (g.answer.map Prod.fst).toList ++ g.taken else g.taken

def unanswered (bus : CoproBus) : CoproBus := { bus with answerValid := false }

/-- The event goes as it would with no answer held. -/
def AsIfUnanswered (bus : CoproBus) (e : BusEvent) : Prop :=
  e.perform bus =
    ((e.perform (unanswered bus)).1,
      { (e.perform (unanswered bus)).2 with answerValid := bus.answerValid })

/-- **The rule.**  An access that takes an answer is the one it was given for, and the answer is
fresh; any other access ignores the answer. -/
def OwnAnswer (g : AnswerRun) (e : BusEvent) : Prop :=
  ∀ a, e.access = some a →
    (g.takes e = true → ∃ n, g.answer = some (n, a) ∧ n ∉ g.taken) ∧
    (g.takes e = false → AsIfUnanswered g.bus e)

/-- An access to the number a pending answer is for, in the answer's direction, is in the space of
the access the answer was given for. -/
def SameSpace (g : AnswerRun) (e : BusEvent) : Prop :=
  ∀ a ∈ e.access, ∀ w ∈ g.answer, g.bus.answerValid = true →
    w.2.addr = a.addr → w.2.isWrite = a.isWrite → w.2.isPort = a.isPort

instance (g : AnswerRun) (e : BusEvent) : Decidable (g.SameSpace e) :=
  inferInstanceAs (Decidable (∀ a ∈ e.access, ∀ w ∈ g.answer, g.bus.answerValid = true →
    w.2.addr = a.addr → w.2.isWrite = a.isWrite → w.2.isPort = a.isPort))

/-! ## One call -/

lemma perform_of_answers {bus : CoproBus} {e : BusEvent} {a : BusAccess} (ha : e.access = some a)
    (h : bus.answers a.addr a.isWrite) : ∃ v, e.perform bus = ((.ok, v), unanswered bus) := by
  cases e with
  | read addr isPort =>
    obtain rfl : (⟨addr, false, isPort⟩ : BusAccess) = a := by simpa [BusEvent.access] using ha
    exact ⟨_, by rw [BusEvent.perform, coproBusRead_of_answers isPort h]; rfl⟩
  | write addr isPort cycle value =>
    obtain rfl : (⟨addr, true, isPort⟩ : BusAccess) = a := by simpa [BusEvent.access] using ha
    exact ⟨_, by rw [BusEvent.perform, coproBusWrite_of_answers isPort cycle value h]; rfl⟩
  | resume value => simp [BusEvent.access] at ha

def answerFields (bus : CoproBus) : Bool × UInt32 × UInt32 × Bool :=
  (bus.answerValid, bus.answerAddr, bus.answerValue, bus.answerIsWrite)

lemma answerFields_of_handshake {bus bus' : CoproBus} (h : bus'.handshake = bus.handshake) :
    answerFields bus' = answerFields bus := by
  have hf : ∀ b : CoproBus, answerFields b = (b.handshake.answerValid, b.handshake.answerAddr,
      b.handshake.answerValue, b.handshake.answerIsWrite) := fun _ => rfl
  rw [hf, hf, h]

/-- A stall is waiting for this access; anything else leaves the handshake. -/
def Waits (bus : CoproBus) (out : (CoproBusResult × UInt8) × CoproBus) (a : BusAccess) : Prop :=
  if out.1.1 = .stall then
    out.2.stalled = true ∧ out.2.waitAddr = a.addr ∧ out.2.waitIsWrite = a.isWrite ∧
      out.2.waitIsPort = a.isPort
  else out.2.handshake = bus.handshake

lemma perform_of_not_answers {bus : CoproBus} {e : BusEvent} {a : BusAccess}
    (ha : e.access = some a) (h : ¬ bus.answers a.addr a.isWrite) :
    answerFields (e.perform bus).2 = answerFields bus ∧ Waits bus (e.perform bus) a ∧
      AsIfUnanswered bus e := by
  have hun : ∀ addr isWrite, ¬ (unanswered bus).answers addr isWrite := by
    rintro addr isWrite ⟨hv, -⟩
    exact Bool.noConfusion hv
  cases e with
  | read addr isPort =>
    obtain rfl : (⟨addr, false, isPort⟩ : BusAccess) = a := by simpa [BusEvent.access] using ha
    have heff : readEffect (unanswered bus) addr isPort = readEffect bus addr isPort :=
      readEffect_setHandshake bus { bus.handshake with answerValid := false } addr isPort
    simp only [AsIfUnanswered, Waits, BusEvent.perform, coproBusRead_of_not_answers isPort h,
      coproBusRead_of_not_answers isPort (hun addr false), decodedRead_eq, heff]
    cases (readEffect bus addr isPort).1 with
    | ok => exact ⟨rfl, rfl, rfl⟩
    | stall => exact ⟨rfl, ⟨rfl, rfl, rfl, rfl⟩, rfl⟩
    | busError => exact ⟨rfl, rfl, rfl⟩
  | write addr isPort cycle value =>
    obtain rfl : (⟨addr, true, isPort⟩ : BusAccess) = a := by simpa [BusEvent.access] using ha
    have heff : writeEffect (unanswered bus) addr isPort = writeEffect bus addr isPort :=
      writeEffect_setHandshake bus { bus.handshake with answerValid := false } addr isPort
    simp only [AsIfUnanswered, Waits, BusEvent.perform,
      coproBusWrite_of_not_answers isPort cycle value h,
      coproBusWrite_of_not_answers isPort cycle value (hun addr true), decodedWrite_eq, heff]
    by_cases hs : (writeEffect bus addr isPort).result = .stall
    · rw [if_pos hs]
      simp only [WriteEffect.apply, hs]
      exact ⟨rfl, ⟨rfl, rfl, rfl, rfl⟩, rfl⟩
    · rw [if_neg hs]
      have hk := WriteEffect.apply_handshake bus hs addr isPort cycle value
      refine ⟨answerFields_of_handshake hk, hk, ?_⟩
      have hc := WriteEffect.apply_setHandshake hs bus
        { bus.handshake with answerValid := false } addr isPort cycle value
      rw [show unanswered bus
        = bus.setHandshake { bus.handshake with answerValid := false } from rfl, hc]
      refine Prod.ext rfl ?_
      show _ = ((writeEffect bus addr isPort).apply bus addr isPort cycle value).setHandshake
        bus.handshake
      rw [← hk, CoproBus.setHandshake_handshake]
  | resume value => simp [BusEvent.access] at ha

/-- **Which accesses take the answer**: those with its address and its direction. -/
lemma takes_iff {g : AnswerRun} {e : BusEvent} {a : BusAccess} (ha : e.access = some a) :
    g.takes e = true ↔ g.bus.answers a.addr a.isWrite := by
  by_cases h : g.bus.answers a.addr a.isWrite
  · obtain ⟨v, hp⟩ := perform_of_answers ha h
    simp [takes, hp, unanswered, h, h.1]
  · have hf := (perform_of_not_answers ha h).1
    have hv : (e.perform g.bus).2.answerValid = g.bus.answerValid := congrArg Prod.fst hf
    simp [takes, hv, h]

/-! ## The history is right -/

/-- The history agrees with the bus: the waiting access and the pending answer are the recorded
ones, up to the answer's space, which the bus does not keep. -/
structure Recorded (g : AnswerRun) : Prop where
  waiting : g.bus.stalled = true →
    g.waiting = some ⟨g.bus.waitAddr, g.bus.waitIsWrite, g.bus.waitIsPort⟩
  answer : g.bus.answerValid = true → ∃ n p,
    g.answer = some (n, ⟨g.bus.answerAddr, g.bus.answerIsWrite, p⟩) ∧ n < g.given ∧ n ∉ g.taken
  taken : ∀ n ∈ g.taken, n < g.given

lemma recorded_start {bus : CoproBus} (hs : bus.stalled = false) (ha : bus.answerValid = false) :
    (start bus).Recorded := by
  refine ⟨fun h => ?_, fun h => ?_, fun n hn => ?_⟩
  · exact absurd (hs.symm.trans h) (by decide)
  · exact absurd (ha.symm.trans h) (by decide)
  · simp [start] at hn

lemma recorded_resume {g : AnswerRun} (hg : g.Recorded) (value : UInt8) :
    (g.step (.resume value)).Recorded := by
  by_cases hs : g.bus.stalled = true
  · have hb := coproBusResume_of_stalled hs value
    refine ⟨fun h => ?_, fun _ => ?_, fun n hn => ?_⟩
    · simp [step, BusEvent.perform, hb] at h
    · refine ⟨g.given, g.bus.waitIsPort, ?_, ?_, fun hm => ?_⟩
      · simp [step, BusEvent.perform, BusEvent.access, hb, hs, hg.waiting hs]
      · simp [step, BusEvent.access, hs]
      · simp only [step, takes, BusEvent.perform, hb, Bool.not_true, Bool.and_false,
          Bool.false_eq_true, if_false] at hm
        exact absurd (hg.taken _ hm) (lt_irrefl _)
    · simp only [step, takes, BusEvent.perform, BusEvent.access, hb, hs, Bool.not_true,
        Bool.and_false, Bool.false_eq_true, if_false, decide_true, Bool.and_self, if_true] at hn ⊢
      exact Nat.lt_succ_of_lt (hg.taken n hn)
  · have hb := coproBusResume_of_not_stalled (Bool.eq_false_iff.mpr hs) value
    have hstep : g.step (.resume value) = g := by
      simp [step, takes, BusEvent.perform, BusEvent.access, hb, hs]
    rw [hstep]
    exact hg

lemma recorded_access {g : AnswerRun} (hg : g.Recorded) {e : BusEvent} {a : BusAccess}
    (ha : e.access = some a) : (g.step e).Recorded := by
  have hgiven : (g.step e).given = g.given := by simp [step, ha]
  have hans : (g.step e).answer = g.answer := by simp [step, ha]
  by_cases h : g.bus.answers a.addr a.isWrite
  · obtain ⟨v, hp⟩ := perform_of_answers ha h
    have hbus : (g.step e).bus = unanswered g.bus := by rw [step, hp]
    have hwait : (g.step e).waiting = g.waiting := by simp [step, hp]
    obtain ⟨n, p, hn, hlt, -⟩ := hg.answer h.1
    refine ⟨fun hs => ?_, fun hv => ?_, fun m hm => ?_⟩
    · rw [hbus] at hs ⊢
      rw [hwait]
      exact hg.waiting hs
    · rw [hbus] at hv
      exact Bool.noConfusion hv
    · simp only [step, (takes_iff ha).mpr h, if_true, hn, Option.map_some, Option.toList_some,
        List.cons_append, List.nil_append, List.mem_cons] at hm
      rw [hgiven]
      rcases hm with rfl | hm
      · exact hlt
      · exact hg.taken m hm
  · obtain ⟨hf, hw, -⟩ := perform_of_not_answers ha h
    have ht : ¬ g.takes e = true := fun hc => h ((takes_iff ha).mp hc)
    have htaken : (g.step e).taken = g.taken := by simp only [step, if_neg ht]
    simp only [answerFields, Prod.mk.injEq] at hf
    refine ⟨fun hs => ?_, fun hv => ?_, fun m hm => ?_⟩
    · by_cases hst : (e.perform g.bus).1.1 = .stall
      · rw [Waits, if_pos hst] at hw
        simp only [step, if_pos hst, ha, hw]
      · rw [Waits, if_neg hst] at hw
        simp only [step, if_neg hst] at hs ⊢
        have hs' : g.bus.handshake.stalled = true := hw ▸ hs
        rw [hg.waiting hs']
        have he : ∀ b : CoproBus, (⟨b.waitAddr, b.waitIsWrite, b.waitIsPort⟩ : BusAccess)
            = ⟨b.handshake.waitAddr, b.handshake.waitIsWrite, b.handshake.waitIsPort⟩ :=
          fun _ => rfl
        rw [he, he, hw]
    · have hv' : g.bus.answerValid = true := hf.1 ▸ hv
      obtain ⟨n, p, hn, hlt, hnt⟩ := hg.answer hv'
      refine ⟨n, p, ?_, hgiven ▸ hlt, htaken ▸ hnt⟩
      rw [hans, hn]
      simp only [step, hf]
    · rw [htaken] at hm
      rw [hgiven]
      exact hg.taken m hm

/-- **Every call keeps the history right.** -/
lemma recorded_step {g : AnswerRun} (hg : g.Recorded) (e : BusEvent) : (g.step e).Recorded := by
  cases e with
  | read addr isPort => exact recorded_access hg rfl
  | write addr isPort cycle value => exact recorded_access hg rfl
  | resume value => exact recorded_resume hg value

/-! ## The rule, exactly -/

lemma sameSpace_iff_ownAnswer {g : AnswerRun} (hg : g.Recorded) (e : BusEvent) :
    g.SameSpace e ↔ g.OwnAnswer e := by
  constructor
  · intro hs a ha
    constructor
    · intro ht
      have hm := (takes_iff ha).mp ht
      obtain ⟨n, p, hn, -, hnt⟩ := hg.answer hm.1
      have hp : p = a.isPort := hs a ha _ hn hm.1 hm.2.1 hm.2.2
      refine ⟨n, ?_, hnt⟩
      rw [hn, hm.2.1, hm.2.2, hp]
    · intro ht
      have hm : ¬ g.bus.answers a.addr a.isWrite := fun hc => by
        rw [(takes_iff ha).mpr hc] at ht
        exact Bool.noConfusion ht
      exact (perform_of_not_answers ha hm).2.2
  · rintro ho a ha ⟨n, w⟩ hn hv haddr hdir
    obtain ⟨m, p, hm, -, -⟩ := hg.answer hv
    obtain ⟨rfl, rfl⟩ : n = m ∧ w = _ := by simpa [Option.mem_def.mp hn] using hm
    obtain ⟨k, hk, -⟩ := (ho a ha).1 ((takes_iff ha).mpr ⟨hv, haddr, hdir⟩)
    rw [Option.mem_def.mp hn] at hk
    have hw := congrArg Prod.snd (Option.some.inj hk)
    exact congrArg BusAccess.isPort hw

end AnswerRun

/-- **An answer reaches only the access it was given for, exactly along the runs that keep the
spaces apart.**  The bus starts with any memory, map and log, and nothing waiting. -/
theorem ownAnswer_iff_sameSpace (bus : CoproBus) (hs : bus.stalled = false)
    (ha : bus.answerValid = false) (es : List BusEvent) :
    Along AnswerRun.step AnswerRun.OwnAnswer (AnswerRun.start bus) es ↔
      Along AnswerRun.step AnswerRun.SameSpace (AnswerRun.start bus) es := by
  symm
  refine along_iff_of_inv (I := AnswerRun.Recorded) ?_ ?_ es _ (AnswerRun.recorded_start hs ha)
  · intro g e hg _
    exact AnswerRun.recorded_step hg e
  · intro g e hg
    exact AnswerRun.sameSpace_iff_ownAnswer hg e

/-- A bus with 64 KB of zeroed card RAM, and a control area that starts with one region: sixteen
bytes of memory from 0x10 that stall. -/
def stallRegionBus : CoproBus :=
  let zero : Bytes.Block := fun _ => 0
  let ctl := ((zero.setWord 0 0x10).setWord 4 0x10).setWord 8 4
  { coproBusInit zero true 0x10000 ctl true 0x1000 with mapCount := 1 }

theorem ownAnswer_retry :
    Along AnswerRun.step AnswerRun.OwnAnswer (AnswerRun.start stallRegionBus)
      [.read 0x10 false, .resume 0x55, .read 0x200 false, .read 0x10 false] :=
  (ownAnswer_iff_sameSpace stallRegionBus rfl rfl _).mpr (by decide)

/-- **The gap.**  A read of memory 0x10 stalls and is answered; a read of *port* 0x10 takes the
answer. -/
theorem answer_crosses_spaces :
    ¬ ∀ bus : CoproBus, bus.stalled = false → bus.answerValid = false → ∀ es : List BusEvent,
      Along AnswerRun.step AnswerRun.OwnAnswer (AnswerRun.start bus) es := by
  intro h
  have hrun := h stallRegionBus rfl rfl [.read 0x10 false, .resume 0x55, .read 0x10 true]
  rw [along_cons, along_cons, along_cons] at hrun
  obtain ⟨-, -, hport, -⟩ := hrun
  obtain ⟨n, hn, -⟩ := (hport ⟨0x10, false, true⟩ rfl).1 (by decide)
  have hmem : ((AnswerRun.start stallRegionBus |>.step (.read 0x10 false)).step
      (.resume 0x55)).answer = some (0, ⟨0x10, false, false⟩) := by decide
  rw [hmem] at hn
  simp at hn

end RpcEmu
