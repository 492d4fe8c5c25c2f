import RpcEmu.Copro.BusOps
import RpcEmu.Copro.Card

/-!
# Histories of a card

A history of a card is a list of `CardEvent`s: the guest's register accesses, the timeslices the
card is given, system resets, and accesses made on its bus.  `cardStep` takes one.

**A card does nothing to its bus but `BusOp`s.**  `cardOps` lists the ones an event amounts to —
a timeslice is as many as the core makes accesses, and a DMA transfer aimed at the card's own
registers adds those of every register it writes — and `cardStep_bus` says that the bus ends up
where they take it.  Over a whole history that is `exec_cardStep_bus`.
-/

namespace RpcEmu

open Bytes Effects Runs

inductive CardEvent
  | regRead (offset : UInt32) (size : OpenbusSize)
  | regWrite (offset : UInt32) (size : OpenbusSize) (val : UInt32)
  | run (cycles : Int)
  | reset
  | access (e : BusEvent)
  | logPop

variable {σ η : Type} (ops : CoreOps σ) (host : HostBus η)

def cardStep (cp : Coproc σ η) : CardEvent → Coproc σ η
  | .regRead offset size => (coprocRegRead ops cp offset size).2
  | .regWrite offset size val => coprocRegWrite ops host cp offset size val
  | .run cycles => (coprocRun ops host cp cycles).2
  | .reset => coprocReset ops host cp
  | .access e => cp.setBus (e.perform cp.bus).2
  | .logPop => cp.setBus (coproBusLogPop cp.bus).2

/-! ## What an event does to the bus -/

def hookOps (bus : CoproBus) : CpuOp → List BusOp
  | .memRead addr =>
    if isPortAddr addr then
      .lookup (bareAddr addr) ::
        (if isCardPort bus addr then [] else [.call (.read (bareAddr addr) true)])
    else [.call (.read (bareAddr addr) false)]
  | .memWrite addr val cycles =>
    let cycle := if bus.cycleSource then cycles.toUInt32 else 0
    if isPortAddr addr then
      .lookup (bareAddr addr) ::
        (if isCardPort bus addr then [] else [.call (.write (bareAddr addr) true cycle val)])
    else [.call (.write (bareAddr addr) false cycle val)]
  | .ramRead _ => []
  | .ramWrite addr val => [.setRam (bus.ram.set addr val)]
  | .ioIn _ => []
  | .ioOut _ _ => []

def execOps {α : Type} (x : Exec σ α) (cp : Coproc σ η) : List BusOp :=
  ((x.run cp.cpu).visits coprocHandler cp.env).flatMap fun v => hookOps v.1.bus v.2

def regWriteOps (cp : Coproc σ η) (offset : UInt32) (size : OpenbusSize) (val : UInt32) :
    List BusOp :=
  match coprocReg offset with
  | some .data => [.setRam (apertureWrite cp size val).bus.ram]
  | some .ctlData => [.setCtl (ctlApertureWrite cp size val).bus.ctl]
  | some .ctrl =>
    if val &&& ctrlReset ≠ 0 then [.reset]
    else if val &&& ctrlStep ≠ 0 then execOps ops.step cp else []
  | some .irqctrl => execOps (ops.interrupt val) cp
  | some .mapOff => [.mapOff val]
  | some .mapCount =>
    .mapCount val :: (if (coproBusSetMap cp.bus cp.bus.mapOff val).1 then [.canStall] else [])
  | some .logOff => [.logOff val]
  | some .logEntries => [.logEntries val]
  | some .logTail => [.logTail val]
  | some .waitData => [.waitData val]
  | some .waitAck => [.call (.resume cp.bus.waitValue.toUInt8)]
  | _ => []

def dmaWordOps (cp : Coproc σ η) : List BusOp :=
  if cp.dmaToHost then
    match host.window cp.dmaHost with
    | some offset => regWriteOps ops cp offset .size32 (cp.bus.ram.word cp.dmaLocal)
    | none => []
  else [.setRam (dmaMove ops host cp).bus.ram]

def dmaSeen (cp : Coproc σ η) (cycles : Int) : List (Coproc σ η) :=
  if cp.dmaBusy then (dmaCycles ops host cycles.toNat cp).1 else []

def coreBudget (cp : Coproc σ η) (budget : Nat) : Nat :=
  if decide (cp.runfor ≠ 0) && decide (cp.runfor.toNat < budget) then cp.runfor.toNat else budget

def runOps (cp : Coproc σ η) (cycles : Int) : List BusOp :=
  if cycles ≤ 0 then []
  else
    let rest := coprocRunTransfer ops host cp cycles
    (dmaSeen ops host cp cycles).flatMap (dmaWordOps ops host) ++
      (if decide (rest.2.ctrl &&& ctrlRun ≠ 0) && decide (rest.1 < cycles.toNat) then
        execOps (ops.run (coreBudget rest.2 (cycles.toNat - rest.1))) rest.2
      else [])

/-- **An event, as operations on the bus.** -/
def cardOps (cp : Coproc σ η) : CardEvent → List BusOp
  | .regRead _ _ => []
  | .regWrite offset size val => regWriteOps ops cp offset size val
  | .run cycles => runOps ops host cp cycles
  | .reset => [.reset]
  | .access e => [.call e]
  | .logPop => [.pop]

def historyOps : Coproc σ η → List CardEvent → List BusOp
  | _, [] => []
  | cp, e :: es => cardOps ops host cp e ++ historyOps (cardStep ops host cp e) es

/-! ## They are all there is -/

lemma exec_hookOps (env : CoprocEnv) (op : CpuOp) :
    (coprocHandler op env).2.bus = exec busStep env.bus (hookOps env.bus op) := by
  cases op with
  | memRead addr =>
    simp only [coprocHandler, coprocHookRead, hookOps]
    by_cases hc : isCardPort env.bus addr = true
    · have hp : isPortAddr addr = true := by
        rw [isCardPort, Bool.and_eq_true] at hc
        exact hc.1
      simp only [hc, hp, if_true]
      rfl
    · simp only [hc, Bool.false_eq_true, if_false]
      cases hp : isPortAddr addr <;>
        simp [hookRead, hp, busStep, BusEvent.perform, exec]
  | memWrite addr val cycles =>
    simp only [coprocHandler, coprocHookWrite, hookOps]
    by_cases hc : isCardPort env.bus addr = true
    · have hp : isPortAddr addr = true := by
        rw [isCardPort, Bool.and_eq_true] at hc
        exact hc.1
      simp only [hc, hp, if_true]
      rfl
    · simp only [hc, Bool.false_eq_true, if_false]
      cases hp : isPortAddr addr <;>
        simp [hookWrite, hp, busStep, BusEvent.perform, exec]
  | ramRead addr => rfl
  | ramWrite addr val => rfl
  | ioIn port => rfl
  | ioOut port val => rfl

lemma run_coprocHandler_bus {α : Type} (p : CpuProg α) (env : CoprocEnv) :
    (p.run coprocHandler env).2.bus =
      exec busStep env.bus ((p.visits coprocHandler env).flatMap fun v => hookOps v.1.bus v.2) := by
  induction p generalizing env with
  | done a => rfl
  | ask op k ih =>
    rw [Prog.run_ask, ih, Prog.visits_ask, List.flatMap_cons, exec_append, exec_hookOps]

lemma coreExec_bus {α : Type} (x : Exec σ α) (cp : Coproc σ η) :
    (coreExec x cp).2.bus = exec busStep cp.bus (execOps x cp) :=
  run_coprocHandler_bus (x.run cp.cpu) cp.env

lemma coprocReset_bus (cp : Coproc σ η) : (coprocReset ops host cp).bus = cp.bus := by
  unfold coprocReset coprocDropIrq
  split <;> rfl

lemma coprocNoteStop_bus (cp : Coproc σ η) : (coprocNoteStop ops host cp).bus = cp.bus := by
  simp only [coprocNoteStop]
  split_ifs <;> rfl

lemma coprocWriteCtrl_bus (cp : Coproc σ η) (val : UInt32) (offset : UInt32) (size : OpenbusSize)
    (hreg : coprocReg offset = some .ctrl) :
    (coprocWriteCtrl ops host cp val).bus
      = exec busStep cp.bus (regWriteOps ops cp offset size val) := by
  simp only [coprocWriteCtrl, regWriteOps, hreg]
  by_cases hr : val &&& ctrlReset ≠ 0
  · rw [if_pos hr, if_pos hr]
    exact coprocReset_bus ops host cp
  · rw [if_neg hr, if_neg hr]
    by_cases hs : val &&& ctrlStep ≠ 0
    · rw [if_pos hs, if_pos hs, coprocNoteStop_bus, coreExec_bus]
      split <;> rfl
    · rw [if_neg hs, if_neg hs]
      split <;> rfl

lemma apertureWrite_bus (cp : Coproc σ η) (size : OpenbusSize) (val : UInt32) :
    (apertureWrite cp size val).bus
      = { cp.bus with ram := (apertureWrite cp size val).bus.ram } := by
  unfold apertureWrite
  split <;> rfl

lemma ctlApertureWrite_bus (cp : Coproc σ η) (size : OpenbusSize) (val : UInt32) :
    (ctlApertureWrite cp size val).bus
      = { cp.bus with ctl := (ctlApertureWrite cp size val).bus.ctl } := by
  unfold ctlApertureWrite
  split <;> rfl

lemma coprocWriteMapCount_bus (cp : Coproc σ η) (val : UInt32) (offset : UInt32)
    (size : OpenbusSize) (hreg : coprocReg offset = some .mapCount) :
    (coprocWriteMapCount ops cp val).bus
      = exec busStep cp.bus (regWriteOps ops cp offset size val) := by
  simp only [coprocWriteMapCount, regWriteOps, hreg]
  cases (coproBusSetMap cp.bus cp.bus.mapOff val).1 <;> rfl

lemma coprocWriteWaitAck_bus (cp : Coproc σ η) :
    (coprocWriteWaitAck ops cp).bus = (coproBusResume cp.bus cp.bus.waitValue.toUInt8).2 := by
  unfold coprocWriteWaitAck
  cases hs : cp.bus.stalled with
  | true => rfl
  | false => exact congrArg Prod.snd (coproBusResume_of_not_stalled hs _).symm

/-- **A register write** does to the bus what its operations do. -/
lemma coprocRegWrite_bus (cp : Coproc σ η) (offset : UInt32) (size : OpenbusSize) (val : UInt32) :
    (coprocRegWrite ops host cp offset size val).bus
      = exec busStep cp.bus (regWriteOps ops cp offset size val) := by
  cases hreg : coprocReg offset with
  | none => simp only [coprocRegWrite, regWriteOps, hreg]; rfl
  | some reg =>
    cases reg with
    | ctrl =>
      rw [coprocRegWrite, hreg]
      exact coprocWriteCtrl_bus ops host cp val offset size hreg
    | mapCount =>
      rw [coprocRegWrite, hreg]
      exact coprocWriteMapCount_bus ops cp val offset size hreg
    | data =>
      simp only [coprocRegWrite, regWriteOps, hreg]
      exact apertureWrite_bus cp size val
    | ctlData =>
      simp only [coprocRegWrite, regWriteOps, hreg]
      exact ctlApertureWrite_bus cp size val
    | irqctrl =>
      simp only [coprocRegWrite, regWriteOps, hreg, coprocApplyInterrupts]
      rw [← coreExec_bus]
      split <;> rfl
    | waitAck =>
      simp only [coprocRegWrite, regWriteOps, hreg]
      exact coprocWriteWaitAck_bus ops cp
    | logTail =>
      simp only [coprocRegWrite, regWriteOps, hreg, coprocWriteLogTail, exec_cons, exec_nil,
        busStep]
      split <;> rfl
    | irqClear =>
      simp only [coprocRegWrite, regWriteOps, hreg, coprocDropIrq]
      split <;> rfl
    | dmaCtrl =>
      simp only [coprocRegWrite, regWriteOps, hreg, coprocStartDma]
      split_ifs <;> rfl
    | _ => simp only [coprocRegWrite, regWriteOps, hreg]; rfl

lemma coprocRegRead_bus (cp : Coproc σ η) (offset : UInt32) (size : OpenbusSize) :
    (coprocRegRead ops cp offset size).2.bus = cp.bus := by
  unfold coprocRegRead
  split
  · unfold apertureRead
    split <;> rfl
  · unfold ctlApertureRead
    split <;> rfl
  · cases size <;> rfl

lemma coprocRegRead_cpu (cp : Coproc σ η) (offset : UInt32) (size : OpenbusSize) :
    (coprocRegRead ops cp offset size).2.cpu = cp.cpu := by
  unfold coprocRegRead
  split
  · unfold apertureRead
    split <;> rfl
  · unfold ctlApertureRead
    split <;> rfl
  · cases size <;> rfl

lemma openbusMasterRead32_bus (cp : Coproc σ η) (addr : UInt32) :
    (openbusMasterRead32 ops host cp addr).2.bus = cp.bus := by
  unfold openbusMasterRead32
  split
  · exact coprocRegRead_bus ops cp _ _
  · rfl

/-- **One word of a transfer.** -/
lemma dmaWord_bus (cp : Coproc σ η) :
    (dmaWord ops host cp).bus = exec busStep cp.bus (dmaWordOps ops host cp) := by
  show (dmaMove ops host cp).bus = _
  cases hd : cp.dmaToHost with
  | true =>
    simp only [dmaMove, dmaWordOps, hd, if_true, openbusMasterWrite32]
    cases host.window cp.dmaHost with
    | some offset => exact coprocRegWrite_bus ops host cp _ _ _
    | none => rfl
  | false =>
    have hbus := openbusMasterRead32_bus ops host cp cp.dmaHost
    simp only [dmaMove, dmaWordOps, hd, Bool.false_eq_true, if_false, exec_cons, exec_nil, busStep,
      Coproc.setBus, Coproc.bus] at hbus ⊢
    rw [hbus]

lemma dmaWords_bus (words : Nat) (cp : Coproc σ η) :
    (dmaWords ops host words cp).2.bus =
      exec busStep cp.bus ((dmaWords ops host words cp).1.flatMap (dmaWordOps ops host)) := by
  induction words generalizing cp with
  | zero => rfl
  | succ words ih =>
    rw [dmaWords]
    split_ifs
    · rfl
    · rw [List.flatMap_cons, exec_append, ← dmaWord_bus]
      exact ih (dmaWord ops host cp)

lemma dmaCycles_bus (budget : Nat) (cp : Coproc σ η) :
    (dmaCycles ops host budget cp).2.2.bus =
      exec busStep cp.bus ((dmaCycles ops host budget cp).1.flatMap (dmaWordOps ops host)) := by
  induction budget generalizing cp with
  | zero => rfl
  | succ budget ih =>
    rw [dmaCycles]
    split_ifs
    · rfl
    · rw [List.flatMap_append, exec_append, ← dmaWords_bus]
      exact ih (dmaWords ops host dmaWordsPerCycle cp).2

lemma dmaWords_inv {I C : Coproc σ η → Prop}
    (hstep : ∀ cp, I cp → cp.dmaLen ≠ 0 → C cp → I (dmaWord ops host cp)) (words : Nat)
    {cp : Coproc σ η} (h : I cp) (hc : ∀ s ∈ (dmaWords ops host words cp).1, C s) :
    (∀ s ∈ (dmaWords ops host words cp).1, I s ∧ s.dmaLen ≠ 0) ∧
      I (dmaWords ops host words cp).2 := by
  induction words generalizing cp with
  | zero => exact ⟨fun s hs => absurd hs (by simp [dmaWords]), h⟩
  | succ words ih =>
    rw [dmaWords] at hc ⊢
    split_ifs at hc ⊢ with hlen
    · exact ⟨fun s hs => absurd hs (by simp), h⟩
    · obtain ⟨hseen, hlast⟩ := ih (hstep cp h hlen (hc cp (by simp))) fun s hs =>
        hc s (List.mem_cons_of_mem _ hs)
      refine ⟨fun s hs => ?_, hlast⟩
      rcases List.mem_cons.mp hs with rfl | hs
      · exact ⟨h, hlen⟩
      · exact hseen s hs

lemma dmaCycles_inv {I C : Coproc σ η → Prop}
    (hstep : ∀ cp, I cp → cp.dmaLen ≠ 0 → C cp → I (dmaWord ops host cp)) (budget : Nat)
    {cp : Coproc σ η} (h : I cp) (hc : ∀ s ∈ (dmaCycles ops host budget cp).1, C s) :
    (∀ s ∈ (dmaCycles ops host budget cp).1, I s ∧ s.dmaLen ≠ 0) ∧
      I (dmaCycles ops host budget cp).2.2 := by
  induction budget generalizing cp with
  | zero => exact ⟨fun s hs => absurd hs (by simp [dmaCycles]), h⟩
  | succ budget ih =>
    rw [dmaCycles] at hc ⊢
    split_ifs at hc ⊢ with hlen
    · exact ⟨fun s hs => absurd hs (by simp), h⟩
    · obtain ⟨hseen, hgood⟩ := dmaWords_inv ops host hstep dmaWordsPerCycle h fun s hs =>
        hc s (List.mem_append_left _ hs)
      obtain ⟨hseen', hlast⟩ := ih hgood fun s hs => hc s (List.mem_append_right _ hs)
      refine ⟨fun s hs => ?_, hlast⟩
      rcases List.mem_append.mp hs with hs | hs
      · exact hseen s hs
      · exact hseen' s hs

lemma coprocRunTransfer_bus (cp : Coproc σ η) (cycles : Int) :
    (coprocRunTransfer ops host cp cycles).2.bus =
      exec busStep cp.bus ((dmaSeen ops host cp cycles).flatMap (dmaWordOps ops host)) := by
  unfold coprocRunTransfer dmaSeen
  cases cp.dmaBusy with
  | false => rfl
  | true =>
    simp only [if_true, coprocRunDma]
    rw [← dmaCycles_bus]
    split <;> rfl

lemma coprocChargeRunfor_bus (cp : Coproc σ η) (ran : Nat) :
    (coprocChargeRunfor cp ran).bus = cp.bus := by
  simp only [coprocChargeRunfor]
  split_ifs <;> rfl

lemma coprocStopReason_bus (cp : Coproc σ η) : (coprocStopReason ops cp).bus = cp.bus := by
  unfold coprocStopReason
  split_ifs <;> rfl

lemma coprocRunCore_bus (cp : Coproc σ η) (budget : Nat) :
    (coprocRunCore ops host cp budget).2.bus =
      exec busStep cp.bus (execOps (ops.run (coreBudget cp budget)) cp) := by
  simp only [coprocRunCore]
  rw [coprocNoteStop_bus, coprocStopReason_bus, coprocChargeRunfor_bus, coreExec_bus]
  rfl

/-- **A timeslice.** -/
lemma coprocRun_bus (cp : Coproc σ η) (cycles : Int) :
    (coprocRun ops host cp cycles).2.bus = exec busStep cp.bus (runOps ops host cp cycles) := by
  unfold coprocRun runOps
  by_cases h0 : cycles ≤ 0
  · rw [if_pos h0, if_pos h0]
    rfl
  · rw [if_neg h0, if_neg h0]
    simp only [exec_append, ← coprocRunTransfer_bus, coprocRunRest]
    split_ifs
    · exact coprocRunCore_bus ops host _ _
    · rfl
    · rfl

/-- **An event does to the bus what its operations do.** -/
theorem cardStep_bus (cp : Coproc σ η) (e : CardEvent) :
    (cardStep ops host cp e).bus = exec busStep cp.bus (cardOps ops host cp e) := by
  cases e with
  | regRead offset size => exact coprocRegRead_bus ops cp offset size
  | regWrite offset size val => exact coprocRegWrite_bus ops host cp offset size val
  | run cycles => exact coprocRun_bus ops host cp cycles
  | reset => exact coprocReset_bus ops host cp
  | access e => rfl
  | logPop => rfl

/-- **A history does to the bus what its operations do.** -/
theorem exec_cardStep_bus (cp : Coproc σ η) (es : List CardEvent) :
    (exec (cardStep ops host) cp es).bus = exec busStep cp.bus (historyOps ops host cp es) := by
  induction es generalizing cp with
  | nil => rfl
  | cons e es ih =>
    rw [exec_cons, ih, historyOps, exec_append, cardStep_bus]

lemma cardStep_sizes (cp : Coproc σ η) (e : CardEvent) :
    (cardStep ops host cp e).bus.sizes = cp.bus.sizes := by
  rw [cardStep_bus, exec_busStep_sizes]

end RpcEmu
