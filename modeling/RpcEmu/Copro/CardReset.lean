import RpcEmu.Copro.CardRun
import RpcEmu.Cpu.Rv32i

/-!
# What a reset forgets

A reset ends the program the core was running.  An access of it that was waiting for the guest, or an
answer the guest had given it, is of no use to the next one: no later access is to be completed by
it, and acknowledging a wait that is over is to do nothing.

Which program an access belongs to is not on the bus, so the history beside it counts the resets:
`EpochRun` keeps the count at which the last access stalled, the count of the access the last answer
was given for, and whether anything has stalled since the last reset.

**The gap.**  `coprocReset` restarts the core and leaves the bus alone: a waiting access goes on
waiting, and an answer goes on being one.  Along the histories that reset only when there is
neither (`EpochRun.ResetWhenQuiet`), a reset does forget (`reset_forgets`).
-/

namespace RpcEmu

open Runs

structure EpochRun where
  bus : CoproBus
  /-- the resets so far -/
  epoch : Nat
  /-- the count at which the last access stalled -/
  stalledIn : Nat
  /-- the count at which the access stalled that the last answer was given for -/
  answerFor : Nat
  /-- has an access stalled since the last reset? -/
  newStall : Bool

namespace EpochRun

def start (bus : CoproBus) : EpochRun := ⟨bus, 0, 0, 0, false⟩

def stalls (bus : CoproBus) : BusOp → Bool
  | .call e => (e.perform bus).1.1 = .stall
  | _ => false

def isAnswer : BusOp → Bool
  | .call (.resume _) => true
  | _ => false

def step (g : EpochRun) (op : BusOp) : EpochRun :=
  match op with
  | .reset => { g with epoch := g.epoch + 1, newStall := false }
  | op =>
    { bus := busStep g.bus op
      epoch := g.epoch
      stalledIn := if stalls g.bus op then g.epoch else g.stalledIn
      answerFor := if isAnswer op && g.bus.stalled then g.stalledIn else g.answerFor
      newStall := g.newStall || stalls g.bus op }

/-- **What a reset forgets**: the answers to accesses before it, and the wait itself. -/
def OwnProgram (g : EpochRun) : BusOp → Prop
  | .call (.resume val) => g.newStall = false → busStep g.bus (.call (.resume val)) = g.bus
  | .call e => ∀ a ∈ e.access, g.bus.answers a.addr a.isWrite → g.answerFor = g.epoch
  | _ => True

/-- A reset finds neither a stall nor an answer. -/
def ResetWhenQuiet (g : EpochRun) : BusOp → Prop
  | .reset => g.bus.stalled = false ∧ g.bus.answerValid = false
  | _ => True

instance (g : EpochRun) (op : BusOp) : Decidable (g.ResetWhenQuiet op) :=
  match op with
  | .reset => inferInstanceAs (Decidable (_ ∧ _))
  | .call _ | .pop | .lookup _ | .canStall | .setRam _ | .setCtl _ | .mapOff _ | .mapCount _
  | .logOff _ | .logEntries _ | .logTail _ | .waitData _ => isTrue trivial

/-- What is waiting or held belongs to the present epoch. -/
structure Current (g : EpochRun) : Prop where
  waiting : g.bus.stalled = true → g.stalledIn = g.epoch ∧ g.newStall = true
  answer : g.bus.answerValid = true → g.answerFor = g.epoch

variable {g : EpochRun}

lemma current_start {bus : CoproBus} (hs : bus.stalled = false) (ha : bus.answerValid = false) :
    (start bus).Current := by
  refine ⟨fun h => ?_, fun h => ?_⟩
  · exact absurd (hs.symm.trans h) (by decide)
  · exact absurd (ha.symm.trans h) (by decide)

lemma Current.of_flags (h : g.Current) {op : BusOp} (hr : op ≠ .reset)
    (hn : isAnswer op = false) (hst : stalls g.bus op = false)
    (hs : (busStep g.bus op).stalled = true → g.bus.stalled = true)
    (ha : (busStep g.bus op).answerValid = true → g.bus.answerValid = true) :
    (g.step op).Current := by
  have hstep : g.step op = { g with bus := busStep g.bus op } := by
    cases op with
    | reset => exact absurd rfl hr
    | call e => simp only [step, hn, hst, Bool.false_and, Bool.or_false, Bool.false_eq_true, if_false]
    | _ => simp only [step, hn, hst, Bool.false_and, Bool.or_false, Bool.false_eq_true, if_false]
  rw [hstep]
  exact ⟨fun h' => h.waiting (hs h'), fun h' => h.answer (ha h')⟩

lemma Current.of_handshake (h : g.Current) {op : BusOp} (hr : op ≠ .reset)
    (hn : isAnswer op = false) (hst : stalls g.bus op = false)
    (hb : (busStep g.bus op).handshake = g.bus.handshake) : (g.step op).Current := by
  have hs : (busStep g.bus op).stalled = g.bus.stalled := congrArg Handshake.stalled hb
  have ha : (busStep g.bus op).answerValid = g.bus.answerValid :=
    congrArg Handshake.answerValid hb
  exact h.of_flags hr hn hst (fun h' => hs.symm.trans h') (fun h' => ha.symm.trans h')

lemma current_access (h : g.Current) {e : BusEvent} {a : BusAccess} (ha : e.access = some a) :
    (g.step (.call e)).Current := by
  have hn : isAnswer (.call e) = false := by
    cases e with
    | read addr isPort => rfl
    | write addr isPort cycle value => rfl
    | resume value => simp [BusEvent.access] at ha
  by_cases hans : g.bus.answers a.addr a.isWrite
  · obtain ⟨v, hp⟩ := AnswerRun.perform_of_answers ha hans
    have hbus : busStep g.bus (.call e) = AnswerRun.unanswered g.bus := by rw [busStep, hp]
    apply h.of_flags (by simp) hn
    · simp [stalls, hp]
    · rw [hbus]
      exact id
    · rw [hbus]
      exact fun hv => Bool.noConfusion hv
  · obtain ⟨hf, hw, -⟩ := AnswerRun.perform_of_not_answers ha hans
    simp only [AnswerRun.answerFields, Prod.mk.injEq] at hf
    by_cases hst : (e.perform g.bus).1.1 = .stall
    · have hs : stalls g.bus (.call e) = true := by simp [stalls, hst]
      refine ⟨fun _ => ?_, fun hv => ?_⟩
      · simp [step, hs]
      · have hv' : g.bus.answerValid = true := hf.1 ▸ hv
        simp only [step, hn, Bool.false_and, Bool.false_eq_true, if_false]
        exact h.answer hv'
    · rw [AnswerRun.Waits, if_neg hst] at hw
      exact h.of_handshake (by simp) hn (by simp [stalls, hst]) hw

lemma current_resume (h : g.Current) (val : UInt8) : (g.step (.call (.resume val))).Current := by
  cases hs : g.bus.stalled with
  | true =>
    have hb := coproBusResume_of_stalled hs val
    refine ⟨fun hst => ?_, fun _ => ?_⟩
    · simp [step, busStep, BusEvent.perform, hb] at hst
    · simp [step, isAnswer, hs, (h.waiting hs).1]
  | false =>
    have hb := coproBusResume_of_not_stalled hs val
    have hbus : busStep g.bus (.call (.resume val)) = g.bus := by
      simp [busStep, BusEvent.perform, hb]
    refine ⟨fun hst => ?_, fun hv => ?_⟩
    · simp only [step, hbus] at hst
      exact absurd (hs.symm.trans hst) (by decide)
    · simp only [step, hbus] at hv
      simp only [step, isAnswer, hs, Bool.and_false, Bool.false_eq_true, if_false]
      exact h.answer hv

/-- **One operation** that meets the condition keeps the wait and the answer this program's, and is
as it should be. -/
lemma step_current (h : g.Current) (op : BusOp) (hc : g.ResetWhenQuiet op) :
    g.OwnProgram op ∧ (g.step op).Current := by
  cases op with
  | call e =>
    cases e with
    | read addr isPort =>
      exact ⟨fun a _ hans => h.answer hans.1, current_access h rfl⟩
    | write addr isPort cycle value =>
      exact ⟨fun a _ hans => h.answer hans.1, current_access h rfl⟩
    | resume val =>
      refine ⟨fun hnew => ?_, current_resume h val⟩
      have hs : g.bus.stalled = false := by
        by_contra hst
        rw [(h.waiting (by simpa using hst)).2] at hnew
        exact absurd hnew (by decide)
      simp [busStep, BusEvent.perform, coproBusResume_of_not_stalled hs]
  | reset =>
    refine ⟨trivial, fun hst => ?_, fun hv => ?_⟩
    · exact absurd (hc.1.symm.trans hst) (by decide)
    · exact absurd (hc.2.symm.trans hv) (by decide)
  | pop =>
    have hb : (busStep g.bus .pop).handshake = g.bus.handshake := by
      simp only [busStep, coproBusLogPop]
      split_ifs <;> rfl
    exact ⟨trivial, h.of_handshake (by simp) rfl rfl hb⟩
  | mapCount val =>
    have hb : (busStep g.bus (.mapCount val)).handshake = g.bus.handshake := by
      simp only [busStep, coproBusSetMap]
      split_ifs <;> rfl
    exact ⟨trivial, h.of_handshake (by simp) rfl rfl hb⟩
  | logEntries val =>
    have hb : (busStep g.bus (.logEntries val)).handshake = g.bus.handshake := by
      simp only [busStep, coproBusSetLog]
      split_ifs <;> rfl
    exact ⟨trivial, h.of_handshake (by simp) rfl rfl hb⟩
  | logTail val =>
    have hb : (busStep g.bus (.logTail val)).handshake = g.bus.handshake := by
      simp only [busStep]
      split_ifs <;> rfl
    exact ⟨trivial, h.of_handshake (by simp) rfl rfl hb⟩
  | lookup addr => exact ⟨trivial, h.of_flags (by simp) rfl rfl id id⟩
  | canStall => exact ⟨trivial, h.of_flags (by simp) rfl rfl id id⟩
  | setRam ram => exact ⟨trivial, h.of_flags (by simp) rfl rfl id id⟩
  | setCtl ctl => exact ⟨trivial, h.of_flags (by simp) rfl rfl id id⟩
  | mapOff val => exact ⟨trivial, h.of_flags (by simp) rfl rfl id id⟩
  | logOff val => exact ⟨trivial, h.of_flags (by simp) rfl rfl id id⟩
  | waitData val => exact ⟨trivial, h.of_flags (by simp) rfl rfl id id⟩

lemma exec_step_bus (g : EpochRun) (ops : List BusOp) :
    (exec step g ops).bus = exec busStep g.bus ops := by
  induction ops generalizing g with
  | nil => rfl
  | cons op ops ih =>
    rw [exec_cons, exec_cons, ih]
    cases op <;> rfl

end EpochRun

variable {σ η : Type} (ops : CoreOps σ) (host : HostBus η)

/-- **A reset forgets the interrupted program, along every history that resets a quiet bus.**  No
access is completed by an answer from before the reset; and where nothing has stalled since, a
WAITACK write leaves the whole card as it is. -/
theorem reset_forgets (core : OpenbusCoprocCore) (bytes : UInt32) (init : σ) (h : η)
    (es : List CardEvent)
    (hc : Along EpochRun.step EpochRun.ResetWhenQuiet
      (EpochRun.start (openbusCoprocFit ops core bytes init h).bus)
      (historyOps ops host (openbusCoprocFit ops core bytes init h) es)) :
    Along EpochRun.step EpochRun.OwnProgram
      (EpochRun.start (openbusCoprocFit ops core bytes init h).bus)
      (historyOps ops host (openbusCoprocFit ops core bytes init h) es) ∧
    ((exec EpochRun.step (EpochRun.start (openbusCoprocFit ops core bytes init h).bus)
        (historyOps ops host (openbusCoprocFit ops core bytes init h) es)).newStall = false →
      ∀ size val, cardStep ops host
          (exec (cardStep ops host) (openbusCoprocFit ops core bytes init h) es)
          (.regWrite 0x7c size val)
        = exec (cardStep ops host) (openbusCoprocFit ops core bytes init h) es) := by
  have hstart : (EpochRun.start (openbusCoprocFit ops core bytes init h).bus).Current :=
    EpochRun.current_start rfl rfl
  have hstep : ∀ (g : EpochRun) (op : BusOp), g.Current → g.ResetWhenQuiet op →
      g.OwnProgram op ∧ (g.step op).Current := fun g op hg ho => EpochRun.step_current hg op ho
  constructor
  · exact along_of_inv (fun g op hg ho => (hstep g op hg ho).2)
      (fun g op hg ho => (hstep g op hg ho).1) _ _ hstart hc
  · intro hnew size val
    have hend : EpochRun.Current (exec EpochRun.step _ _) :=
      exec_inv (fun g op hg ho => (hstep g op hg ho).2) _ _ hstart hc
    have hs : (exec (cardStep ops host) (openbusCoprocFit ops core bytes init h) es).bus.stalled
        = false := by
      rw [exec_cardStep_bus]
      by_contra hst
      have hw := hend.waiting
      rw [EpochRun.exec_step_bus] at hw
      rw [(hw (eq_true_of_ne_false hst)).2] at hnew
      exact absurd hnew (by decide)
    show coprocWriteWaitAck ops _ = _
    rw [coprocWriteWaitAck, hs]
    rfl

def stallPage : List CardEvent :=
  [.regWrite 0x80 .size32 0, .regWrite 0x84 .size32 0x10, .regWrite 0x84 .size32 0x10,
    .regWrite 0x84 .size32 4, .regWrite 0x5c .size32 1]

theorem reset_forgets_answered :
    Along EpochRun.step EpochRun.OwnProgram (EpochRun.start rv32iCard.bus)
      (historyOps rv32iOps emptyHost rv32iCard
        (stallPage ++ [.access (.read 0x10 false), .regWrite 0x7c .size32 0,
          .access (.read 0x10 false), .regWrite 0x0c .size32 4, .regWrite 0x7c .size32 0])) :=
  (reset_forgets rv32iOps emptyHost .rv32i 0x1000 (rv32iInit true 0x1000) () _ (by decide)).1

/-- **The gap.**  An access stalls, the card is reset, the guest acknowledges, and the next
program's first access to the address is completed by that answer. -/
theorem answer_survives_reset :
    ¬ ∀ es : List CardEvent,
      Along EpochRun.step EpochRun.OwnProgram (EpochRun.start rv32iCard.bus)
        (historyOps rv32iOps emptyHost rv32iCard es) := by
  intro h
  have hrun := h (stallPage ++ [.access (.read 0x10 false), .regWrite 0x0c .size32 4,
    .regWrite 0x7c .size32 0, .access (.read 0x10 false)])
  have hops : historyOps rv32iOps emptyHost rv32iCard
      (stallPage ++ [.access (.read 0x10 false), .regWrite 0x0c .size32 4,
        .regWrite 0x7c .size32 0, .access (.read 0x10 false)])
      = historyOps rv32iOps emptyHost rv32iCard
          (stallPage ++ [.access (.read 0x10 false), .regWrite 0x0c .size32 4,
            .regWrite 0x7c .size32 0]) ++ [.call (.read 0x10 false)] := by rfl
  rw [hops, along_append, along_cons] at hrun
  exact absurd (hrun.2.1 ⟨0x10, false, false⟩ rfl (by decide)) (by decide)

end RpcEmu
