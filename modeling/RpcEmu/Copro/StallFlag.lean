import RpcEmu.Copro.CardRun
import RpcEmu.Copro.Stall
import RpcEmu.Cpu.M6502Abandon

/-!
# The registers an abandoned 6502 instruction goes back to

A 6502 that stalls goes back to the registers it saved before the instruction, and it saves them only
if a flag says that its map can stall.  The flag is computed when MAPCOUNT is written; the table it is
computed from stays in the control area, where the guest can edit it.

**One step.**  `restoresOwn_of_agree`: if the flag is set whenever the map can stall, at every access
of the step, then a step that ends stalled ends with its own registers — BRK apart, which halts with
the stall pending, and apart from a bus error beside the stall, which leaves the instruction half
done (`StallsAlone`).
-/

namespace RpcEmu

open Effects Runs

/-! ## A map that cannot stall -/

lemma canStallFrom_of_region {bus : CoproBus} {addr : UInt32} {isPort : Bool} {entry : UInt32} :
    ∀ {n i : Nat}, coproBusRegionFrom bus addr isPort i n = some entry →
      coproRegionKind (regionFields bus entry).kind = .stall →
      coproBusCanStallFrom bus i n = true
  | 0, i, h, _ => by simp [coproBusRegionFrom] at h
  | n + 1, i, h, hk => by
    rw [coproBusRegionFrom] at h
    rw [coproBusCanStallFrom]
    by_cases hm : regionMatches bus addr isPort (regionEntry bus i) = true
    · rw [if_pos hm, Option.some_inj] at h
      subst h
      have hsize : ¬ ctlWord bus (regionEntry bus i + 4) = 0 := by
        intro h0
        simp [regionMatches, h0] at hm
      have hkind : coproRegionKind (ctlWord bus (regionEntry bus i + 8)) = .stall := hk
      rw [if_neg hsize, if_pos hkind]
    · rw [if_neg hm] at h
      have ih := canStallFrom_of_region h hk
      split
      · exact ih
      · split
        · rfl
        · exact ih

lemma canStall_of_stallRegion {bus : CoproBus} {addr : UInt32} {isPort : Bool}
    (h : stallRegion bus addr isPort = true) : coproBusCanStall bus = true := by
  rw [stallRegion, coproBusRegion] at h
  split at h
  · exact Bool.noConfusion h
  · rename_i entry hr
    split at hr
    · exact absurd hr (by simp)
    · exact canStallFrom_of_region hr (of_decide_eq_true h)

lemma canStall_of_stalls {op : CpuOp} {env : CoprocEnv}
    (h : op.stalls (coprocHandler op env).1 = true) : coproBusCanStall env.bus = true := by
  by_cases ha : op.answered env.bus
  · rw [coprocHandler_of_answered ha] at h
    cases op <;> exact Bool.noConfusion h
  · have hon := (stalls_iff_stallsOn ha).symm.trans h
    rw [CpuOp.stallsOn] at hon
    split at hon
    · exact Bool.noConfusion hon
    · exact canStall_of_stallRegion hon

lemma anyStall_of_cannotStall {α : Type} : ∀ (p : CpuProg α) (env : CoprocEnv),
    (∀ v ∈ p.visits coprocHandler env, coproBusCanStall v.1.bus = false) →
    anyStall (p.trace coprocHandler env) = false
  | .done _, _, _ => rfl
  | .ask op k, env, h => by
    have hop : op.stalls (coprocHandler op env).1 = false := by
      by_contra hs
      have hcan := canStall_of_stalls (eq_true_of_ne_false hs)
      exact absurd ((h (env, op) (by simp)).symm.trans hcan) (by decide)
    have ih := anyStall_of_cannotStall (k (coprocHandler op env).1) (coprocHandler op env).2
      fun v hv => h v (by simp [hv])
    rw [Prog.trace_ask]
    simp only [anyStall, List.any_cons, hop, Bool.false_or]
    exact ih

def CoproBus.mapFields (bus : CoproBus) : Bytes.Block × Bool × UInt32 × UInt32 × UInt32 :=
  (bus.ctl, bus.ctlPresent, bus.ctlSize, bus.mapOff, bus.mapCount)

lemma canStall_congr {bus bus' : CoproBus} (h : bus'.mapFields = bus.mapFields) :
    coproBusCanStall bus' = coproBusCanStall bus := by
  simp only [CoproBus.mapFields, Prod.mk.injEq] at h
  obtain ⟨h1, h2, h3, h4, h5⟩ := h
  have hword : ∀ offset, ctlWord bus' offset = ctlWord bus offset := by
    intro offset
    rw [ctlWord, ctlWord, ctlWordBytes, ctlWordBytes, h1, h2, h3]
  have hentry : ∀ i, regionEntry bus' i = regionEntry bus i := by
    intro i
    rw [regionEntry, regionEntry, h4]
  have hfrom : ∀ n i, coproBusCanStallFrom bus' i n = coproBusCanStallFrom bus i n := by
    intro n
    induction n with
    | zero => exact fun _ => rfl
    | succ n ih =>
      intro i
      rw [coproBusCanStallFrom, coproBusCanStallFrom]
      simp only [hword, hentry, ih]
  rw [coproBusCanStall, coproBusCanStall, h5]
  exact hfrom _ _

lemma covers_run {α : Type} {flag : Bool} : ∀ (p : CpuProg α) (env : CoprocEnv),
    (coproBusCanStall env.bus = true → flag = true) →
    (∀ v ∈ p.visits coprocHandler env,
      coproBusCanStall (coprocHandler v.2 v.1).2.bus = true → flag = true) →
    (∀ v ∈ p.visits coprocHandler env, coproBusCanStall v.1.bus = true → flag = true) ∧
      (coproBusCanStall (p.run coprocHandler env).2.bus = true → flag = true)
  | .done _, _, h, _ => ⟨fun v hv => absurd hv (by simp), h⟩
  | .ask op k, env, h, hv => by
    obtain ⟨hseen, hlast⟩ := covers_run (k (coprocHandler op env).1) (coprocHandler op env).2
      (hv (env, op) (by simp)) fun v hm => hv v (by simp [hm])
    refine ⟨fun v hm => ?_, hlast⟩
    rw [Prog.visits_ask] at hm
    rcases List.mem_cons.mp hm with rfl | hm
    · exact h
    · exact hseen v hm

namespace Cpu6502

/-! ## The hook and the flags -/

/-- The core's flags after the accesses `tr`. -/
structure Flags (s : State) (tr : List CpuAsked) (t : State) : Prop where
  hooked : t.hooked = s.hooked
  canStall : t.canStall = s.canStall
  stalled : t.stalled = (s.stalled || anyStall tr)

lemma Flags.composes : Composes Flags where
  refl _ := ⟨rfl, rfl, (Bool.or_false _).symm⟩
  trans h h' := by
    refine ⟨h'.hooked.trans h.hooked, h'.canStall.trans h.canStall, ?_⟩
    rw [h'.stalled, h.stalled, anyStall_append, Bool.or_assoc]

lemma flags_pieces : Pieces Flags where
  composes := Flags.composes
  rd8 addr s := by
    rw [rd8, StateT.run_bind, StateT.run_get, pure_bind]
    split
    · rintro ⟨res, v⟩
      cases res with
      | ok => exact ⟨rfl, rfl, (Bool.or_false _).symm⟩
      | stall => exact ⟨rfl, rfl, (Bool.or_true _).symm⟩
      | busError => exact ⟨rfl, rfl, (Bool.or_false _).symm⟩
    · split
      · exact ⟨rfl, rfl, (Bool.or_false _).symm⟩
      · exact fun r => ⟨rfl, rfl, (Bool.or_false _).symm⟩
  wr8 addr val s := by
    rw [wr8, StateT.run_bind, StateT.run_get, pure_bind]
    split
    · intro res
      cases res with
      | ok => exact ⟨rfl, rfl, (Bool.or_false _).symm⟩
      | stall => exact ⟨rfl, rfl, (Bool.or_true _).symm⟩
      | busError => exact ⟨rfl, rfl, (Bool.or_false _).symm⟩
    · split
      · exact ⟨rfl, rfl, (Bool.or_false _).symm⟩
      · exact fun r => ⟨rfl, rfl, (Bool.or_false _).symm⟩
  own _ _ _ _ := ⟨rfl, rfl, (Bool.or_false _).symm⟩

lemma flags_modify {f : State → State} (h : ∀ s, (f s).hooked = s.hooked)
    (h' : ∀ s, (f s).canStall = s.canStall) (h'' : ∀ s, (f s).stalled = s.stalled) :
    Respects Flags (modify f : Exec State PUnit) :=
  Respects.of_modify fun s => ⟨h s, h' s, (h'' s).trans (Bool.or_false _).symm⟩

lemma flags_abandon : Respects Flags abandon :=
  flags_pieces.bind (flags_modify (fun _ => rfl) (fun _ => rfl) fun _ => rfl) fun _ =>
    flags_pieces.pure _

lemma flags_finish (op : UInt8) : Respects Flags (finish op) :=
  flags_pieces.bind flags_pieces.get fun _ =>
    Respects.of_ite (flags_pieces.pure _) <| Respects.of_ite flags_abandon <|
      flags_pieces.bind (flags_modify (fun _ => rfl) (fun _ => rfl) fun _ => rfl) fun _ =>
        flags_pieces.pure _

lemma flags_halt (n : Nat) : Respects Flags (halt n) :=
  flags_pieces.bind (flags_modify (fun _ => rfl) (fun _ => rfl) fun _ => rfl) fun _ =>
    flags_pieces.pure _

lemma flags_execute (op : UInt8) (insn : Insn) : Respects Flags (execute op insn) := by
  cases insn with
  | brk => exact flags_pieces.bind flags_pieces.fetch8 fun _ => flags_halt _
  | stp => exact flags_halt _
  | illegal =>
    exact flags_pieces.bind (flags_modify (fun _ => rfl) (fun _ => rfl) fun _ => rfl) fun _ =>
      flags_pieces.pure _
  | _ => exact flags_pieces.bind (flags_pieces.perform _) fun _ => flags_finish op

/-- **A whole step** leaves the hook alone, and its stall flag says whether an access stalled. -/
lemma flags_step : Respects Flags step := by
  refine flags_pieces.bind flags_pieces.get fun s => Respects.of_ite (flags_pieces.pure _) ?_
  refine flags_pieces.bind (flags_modify (fun _ => rfl) (fun _ => rfl) fun _ => rfl) fun _ => ?_
  refine flags_pieces.bind flags_pieces.fetch8 fun op => flags_pieces.bind flags_pieces.get fun t => ?_
  exact Respects.of_ite (flags_pieces.pure _) (Respects.of_ite flags_abandon (flags_execute op _))

lemma flags_takeInterrupt (vector : UInt16) : Respects Flags (takeInterrupt vector) :=
  flags_pieces.bind flags_pieces.get fun _ => flags_pieces.bind (flags_pieces.push8 _) fun _ =>
    flags_pieces.bind (flags_pieces.push8 _) fun _ => flags_pieces.bind (flags_pieces.push8 _)
      fun _ => flags_pieces.bind (flags_pieces.modifyRegs _) fun _ =>
        flags_pieces.bind (flags_pieces.rd16 _ _) fun _ => flags_pieces.modifyRegs _

lemma flags_interrupt (id ctrl : UInt32) : Respects Flags ((cpu6502Ops id).interrupt ctrl) :=
  Respects.of_ite
    (flags_pieces.bind flags_pieces.get fun _ =>
      Respects.of_ite (flags_pieces.pure _) (flags_takeInterrupt _))
    (Respects.of_ite
      (flags_pieces.bind flags_pieces.get fun _ =>
        Respects.of_ite (flags_pieces.pure _) (flags_takeInterrupt _))
      (flags_pieces.pure _))

/-! ## One step -/

/-- **The registers are this instruction's**: if the step ends stalled, they are what they were when it
started. -/
def RestoresOwn (s : State) (env : CoprocEnv) : Prop :=
  ((step.run s).run coprocHandler env).1.2.stalled = true →
    ((step.run s).run coprocHandler env).1.2.toRegs = s.toRegs

def brkTrace (s : State) : List CpuAsked → Bool
  | ⟨.memRead _, (.ok, op)⟩ :: _ => decode s.cmos op = .brk
  | _ => false

def stallsAlone (s : State) (env : CoprocEnv) : Bool :=
  !anyStall ((step.run s).trace coprocHandler env) ||
    (!anyBusError ((step.run s).trace coprocHandler env) &&
      !brkTrace s ((step.run s).trace coprocHandler env))

lemma restoresOwn_of_stopped {s : State} (h : (s.halted || s.faulted || s.stalled) = true)
    (env : CoprocEnv) : RestoresOwn s env := by
  have hp : step.run s = .done (0, s) := by
    rw [step, StateT.run_bind, StateT.run_get, pure_bind, if_pos h]
    rfl
  intro _
  rw [hp]
  rfl

/-- **One step**, where the flag is set whenever the map can stall. -/
theorem restoresOwn_of_agree {s : State} {env : CoprocEnv} (hh : s.hooked = true)
    (hagree : ∀ v ∈ (step.run s).visits coprocHandler env,
      coproBusCanStall v.1.bus = true → s.canStall = true)
    (halone : stallsAlone s env = true) : RestoresOwn s env := by
  by_cases hrun : (s.halted || s.faulted || s.stalled) = true
  · exact restoresOwn_of_stopped hrun env
  · obtain ⟨⟨hhalt, hf⟩, hst⟩ : (s.halted = false ∧ s.faulted = false) ∧ s.stalled = false := by
      simpa using hrun
    intro hend
    have hflags := (flags_step s).of_run coprocHandler env
    have hstall : anyStall ((step.run s).trace coprocHandler env) = true := by
      have h := hflags.stalled
      rw [hend, hst, Bool.false_or] at h
      exact h.symm
    have hcan : s.canStall = true := by
      by_contra hn
      have hnone := anyStall_of_cannotStall (step.run s) env fun v hv => by
        by_contra hc
        exact hn (hagree v hv (eq_true_of_ne_false hc))
      exact absurd (hnone.symm.trans hstall) (by decide)
    rw [stallsAlone, hstall, Bool.not_true, Bool.false_or, Bool.and_eq_true, Bool.not_eq_true',
      Bool.not_eq_true'] at halone
    obtain ⟨herr, hbrk⟩ := halone
    rcases ((step_ends hh hcan hf hst hhalt).of_run coprocHandler env).2 hstall herr with h | h
    · rw [h.2]
      rfl
    · obtain ⟨op, r, hd, htr⟩ := h
      rw [htr] at hbrk
      simp [brkTrace, hd] at hbrk

/-! ## The steps of a history -/

/-- The states from which the loop of `run` takes a step. -/
def loopSteps (cycles : Nat) : Nat → Nat → State → CoprocEnv → List (State × CoprocEnv)
  | 0, _, _, _ => []
  | rounds + 1, used, s, env =>
    if used < cycles then
      let out := (step.run s).run coprocHandler env
      (s, env) ::
        (if out.1.1 = 0 then [] else loopSteps cycles rounds (used + out.1.1) out.1.2 out.2)
    else []

section History

variable {η : Type} (id : UInt32) (host : HostBus η)

def regWriteSteps (cp : Coproc State η) (offset val : UInt32) : List (State × CoprocEnv) :=
  match coprocReg offset with
  | some .ctrl =>
    if val &&& ctrlReset ≠ 0 then [] else if val &&& ctrlStep ≠ 0 then [(cp.cpu, cp.env)] else []
  | _ => []

def dmaWordSteps (cp : Coproc State η) : List (State × CoprocEnv) :=
  if cp.dmaToHost then
    match host.window cp.dmaHost with
    | some offset => regWriteSteps cp offset (cp.bus.ram.word cp.dmaLocal)
    | none => []
  else []

/-- Does the core run in a timeslice of which the transfer has left `rest`? -/
def coreRuns (rest : Nat × Coproc State η) (cycles : Int) : Bool :=
  decide (rest.2.ctrl &&& ctrlRun ≠ 0) && decide (rest.1 < cycles.toNat)

/-- **The calls of `cpu6502_step` in one event**, each with the core and the card it starts from. -/
def eventSteps (cp : Coproc State η) : CardEvent → List (State × CoprocEnv)
  | .regWrite offset _ val => regWriteSteps cp offset val
  | .run cycles =>
    if cycles ≤ 0 then []
    else
      let rest := coprocRunTransfer (cpu6502Ops id) host cp cycles
      let budget := coreBudget rest.2 (cycles.toNat - rest.1)
      (dmaSeen (cpu6502Ops id) host cp cycles).flatMap (dmaWordSteps host) ++
        (if coreRuns rest cycles then loopSteps budget budget 0 rest.2.cpu rest.2.env else [])
  | .regRead _ _ => []
  | .reset => []
  | .access _ => []
  | .logPop => []

/-! ## Keeping the flag -/

def flagCovers (cp : Coproc State η) (bus : CoproBus) : Bool :=
  !coproBusCanStall bus || cp.cpu.canStall

def execKeepsFlag {α : Type} (x : Exec State α) (cp : Coproc State η) : Bool :=
  ((x.run cp.cpu).visits coprocHandler cp.env).all fun v =>
    flagCovers cp (coprocHandler v.2 v.1).2.bus

def regWriteKeepsFlag (cp : Coproc State η) (offset : UInt32) (size : OpenbusSize) (val : UInt32) :
    Bool :=
  match coprocReg offset with
  | some .ctlData => flagCovers cp (ctlApertureWrite cp size val).bus
  | some .mapOff => flagCovers cp { cp.bus with mapOff := val }
  | some .ctrl =>
    if val &&& ctrlReset ≠ 0 then true
    else if val &&& ctrlStep ≠ 0 then execKeepsFlag (cpu6502Ops id).step cp else true
  | some .irqctrl => execKeepsFlag ((cpu6502Ops id).interrupt val) cp
  | _ => true

def dmaWordKeepsFlag (cp : Coproc State η) : Bool :=
  if cp.dmaToHost then
    match host.window cp.dmaHost with
    | some offset => regWriteKeepsFlag id cp offset .size32 (cp.bus.ram.word cp.dmaLocal)
    | none => true
  else true

/-- **Nothing but a MAPCOUNT write gives the map a stalling region while the flag is clear.** -/
def eventKeepsFlag (cp : Coproc State η) : CardEvent → Bool
  | .regWrite offset size val => regWriteKeepsFlag id cp offset size val
  | .run cycles =>
    if cycles ≤ 0 then true
    else
      let rest := coprocRunTransfer (cpu6502Ops id) host cp cycles
      let budget := coreBudget rest.2 (cycles.toNat - rest.1)
      (dmaSeen (cpu6502Ops id) host cp cycles).all (dmaWordKeepsFlag id host) &&
        (!coreRuns rest cycles || execKeepsFlag (run budget) rest.2)
  | .access e => flagCovers cp (e.perform cp.bus).2
  | .regRead _ _ => true
  | .reset => true
  | .logPop => true

/-- The flag is set if the map can stall. -/
structure FlagAgrees (cp : Coproc State η) : Prop where
  hooked : cp.cpu.hooked = true
  covers : flagCovers cp cp.bus = true

lemma flagCovers_iff {cp : Coproc State η} {bus : CoproBus} :
    flagCovers cp bus = true ↔ (coproBusCanStall bus = true → cp.cpu.canStall = true) := by
  rw [flagCovers]
  cases coproBusCanStall bus <;> simp

section Agrees

variable {cp cp' : Coproc State η}

lemma FlagAgrees.of_same (h : FlagAgrees cp) (hh : cp'.cpu.hooked = cp.cpu.hooked)
    (hc : cp'.cpu.canStall = cp.cpu.canStall) (hb : cp'.bus.mapFields = cp.bus.mapFields) :
    FlagAgrees cp' := by
  refine ⟨hh.trans h.hooked, flagCovers_iff.mpr fun hs => ?_⟩
  rw [hc]
  rw [canStall_congr hb] at hs
  exact flagCovers_iff.mp h.covers hs

/-- **Setting the hook** makes them agree. -/
lemma flagAgrees_rehook (cp : Coproc State η) : FlagAgrees (coprocRehook (cpu6502Ops id) cp) :=
  ⟨rfl, flagCovers_iff.mpr fun h => h⟩

/-- **The core's code** leaves them agreeing, and they agree at each of its accesses. -/
lemma exec_agrees {α : Type} {x : Exec State α} (hx : Respects Flags x) (h : FlagAgrees cp)
    (hk : execKeepsFlag x cp = true) :
    FlagAgrees (coreExec x cp).2 ∧
      ∀ v ∈ (x.run cp.cpu).visits coprocHandler cp.env,
        coproBusCanStall v.1.bus = true → cp.cpu.canStall = true := by
  have hflags := (hx cp.cpu).of_run coprocHandler cp.env
  have hk' := List.all_eq_true.mp hk
  obtain ⟨hseen, hlast⟩ := covers_run (x.run cp.cpu) cp.env (flagCovers_iff.mp h.covers)
    fun v hv => flagCovers_iff.mp (hk' v hv)
  refine ⟨⟨hflags.hooked.trans h.hooked, flagCovers_iff.mpr fun hs => ?_⟩, hseen⟩
  exact hflags.canStall.trans (hlast hs)

lemma coprocNoteStop_agrees (h : FlagAgrees cp) :
    FlagAgrees (coprocNoteStop (cpu6502Ops id) host cp) := by
  have hcpu : (coprocNoteStop (cpu6502Ops id) host cp).cpu = cp.cpu := by
    simp only [coprocNoteStop]
    split_ifs <;> rfl
  refine h.of_same (congrArg State.hooked hcpu) (congrArg State.canStall hcpu) ?_
  rw [coprocNoteStop_bus]

lemma coprocReset_agrees (h : FlagAgrees cp) : FlagAgrees (coprocReset (cpu6502Ops id) host cp) := by
  refine h.of_same ?_ ?_ ?_
  · simp only [coprocReset, coprocDropIrq]
    split_ifs <;> rfl
  · simp only [coprocReset, coprocDropIrq]
    split_ifs <;> rfl
  · rw [coprocReset_bus]

lemma flags_opsStep : Respects Flags (cpu6502Ops id).step :=
  flags_pieces.bind flags_step fun _ => flags_pieces.pure _

lemma coprocWriteCtrl_agrees (h : FlagAgrees cp) {val : UInt32}
    (hk : val &&& ctrlReset ≠ 0 ∨ val &&& ctrlStep = 0 ∨
      execKeepsFlag (cpu6502Ops id).step cp = true) :
    FlagAgrees (coprocWriteCtrl (cpu6502Ops id) host cp val) := by
  simp only [coprocWriteCtrl]
  by_cases hr : val &&& ctrlReset ≠ 0
  · rw [if_pos hr]
    exact coprocReset_agrees id host h
  · rw [if_neg hr]
    -- the control bits come first, and are no part of the core or the map
    have hctrl : ∀ cp' : Coproc State η, cp'.cpu = cp.cpu → cp'.env = cp.env →
        FlagAgrees (if val &&& ctrlStep ≠ 0 then
          coprocNoteStop (cpu6502Ops id) host (coreExec (cpu6502Ops id).step cp').2 else cp') := by
      intro cp' hcpu henv
      have h' : FlagAgrees cp' :=
        h.of_same (congrArg State.hooked hcpu) (congrArg State.canStall hcpu)
          (congrArg (fun e : CoprocEnv => e.bus.mapFields) henv)
      by_cases hs : val &&& ctrlStep ≠ 0
      · rw [if_pos hs]
        have hk' : execKeepsFlag (cpu6502Ops id).step cp' = true := by
          rcases hk with hk | hk | hk
          · exact absurd hk hr
          · exact absurd hk hs
          · rw [execKeepsFlag] at hk ⊢
            simp only [flagCovers, hcpu, henv] at hk ⊢
            exact hk
        exact coprocNoteStop_agrees id host (exec_agrees (flags_opsStep id) h' hk').1
      · rw [if_neg hs]
        exact h'
    refine hctrl _ ?_ ?_
    · split <;> rfl
    · split <;> rfl

/-- **A register write** leaves them agreeing. -/
lemma regWrite_agrees (h : FlagAgrees cp) {offset : UInt32} {size : OpenbusSize} {val : UInt32}
    (hk : regWriteKeepsFlag id cp offset size val = true) :
    FlagAgrees (coprocRegWrite (cpu6502Ops id) host cp offset size val) := by
  cases hreg : coprocReg offset with
  | none =>
    rw [coprocRegWrite, hreg]
    exact h
  | some reg =>
    rw [regWriteKeepsFlag, hreg] at hk
    cases reg with
    | ctlData =>
      rw [coprocRegWrite, hreg]
      have hcpu : (ctlApertureWrite cp size val).cpu = cp.cpu := by
        rw [ctlApertureWrite]
        split <;> rfl
      refine ⟨(congrArg State.hooked hcpu).trans h.hooked, ?_⟩
      rw [flagCovers, hcpu]
      exact hk
    | mapOff =>
      rw [coprocRegWrite, hreg]
      exact ⟨h.hooked, hk⟩
    | mapCount =>
      rw [coprocRegWrite, hreg]
      simp only [coprocWriteMapCount]
      split
      · exact flagAgrees_rehook id _
      · rename_i hacc
        have hbus : (coproBusSetMap cp.bus cp.bus.mapOff val).2 = cp.bus := by
          rw [coproBusSetMap] at hacc ⊢
          split_ifs at hacc ⊢ <;> first | rfl | exact absurd rfl hacc
        rw [hbus]
        exact h
    | ctrl =>
      rw [coprocRegWrite, hreg]
      refine coprocWriteCtrl_agrees id host h ?_
      by_cases hr : val &&& ctrlReset ≠ 0
      · exact .inl hr
      · by_cases hs : val &&& ctrlStep ≠ 0
        · simp only [if_neg hr, if_pos hs] at hk
          exact .inr (.inr hk)
        · exact .inr (.inl (not_not.mp hs))
    | irqctrl =>
      simp only [coprocRegWrite, hreg, coprocApplyInterrupts]
      have h0 : FlagAgrees { cp with irqctrl := val } := ⟨h.1, h.2⟩
      have h' := (exec_agrees (flags_interrupt id val) h0 hk).1
      split
      · exact ⟨h'.1, h'.2⟩
      · exact h'
    | data =>
      rw [coprocRegWrite, hreg]
      refine h.of_same ?_ ?_ ?_ <;>
      · simp only [apertureWrite]
        split <;> rfl
    | logEntries =>
      rw [coprocRegWrite, hreg]
      refine h.of_same rfl rfl ?_
      simp only [Coproc.setBus, coproBusSetLog]
      split_ifs <;> rfl
    | logTail =>
      simp only [coprocRegWrite, hreg, coprocWriteLogTail]
      split
      · exact h.of_same rfl rfl rfl
      · exact h
    | waitAck =>
      simp only [coprocRegWrite, hreg, coprocWriteWaitAck]
      split
      · refine h.of_same rfl rfl ?_
        simp only [Coproc.setBus, coproBusResume]
        split <;> rfl
      · exact h
    | regdata =>
      rw [coprocRegWrite, hreg]
      refine h.of_same ?_ ?_ rfl <;>
      · simp only [cpu6502Ops]
        split <;> rfl
    | irqClear =>
      simp only [coprocRegWrite, hreg, coprocDropIrq]
      split
      · exact h.of_same rfl rfl rfl
      · exact h
    | dmaCtrl =>
      simp only [coprocRegWrite, hreg, coprocStartDma]
      split_ifs <;> exact h.of_same rfl rfl rfl
    | _ =>
      simp only [coprocRegWrite, hreg]
      exact h.of_same rfl rfl rfl

lemma regWriteSteps_restore (h : FlagAgrees cp) {offset : UInt32} {size : OpenbusSize}
    {val : UInt32} (hk : regWriteKeepsFlag id cp offset size val = true) :
    ∀ w ∈ regWriteSteps cp offset val, stallsAlone w.1 w.2 = true → RestoresOwn w.1 w.2 := by
  intro w hw halone
  rw [regWriteSteps] at hw
  rw [regWriteKeepsFlag] at hk
  split at hw
  · rename_i hreg
    rw [hreg] at hk
    by_cases hr : val &&& ctrlReset ≠ 0
    · rw [if_pos hr] at hw
      exact absurd hw (by simp)
    · by_cases hs : val &&& ctrlStep ≠ 0
      · rw [if_neg hr, if_pos hs, List.mem_singleton] at hw
        simp only [if_neg hr, if_pos hs] at hk
        subst hw
        obtain ⟨-, hseen⟩ := exec_agrees (flags_opsStep id) h hk
        refine restoresOwn_of_agree h.hooked (fun v hv => hseen v ?_) halone
        show v ∈ ((step >>= fun _ => pure ()).run cp.cpu).visits coprocHandler cp.env
        rw [StateT.run_bind, Prog.visits_bind]
        exact List.mem_append_left _ hv
      · rw [if_neg hr, if_neg hs] at hw
        exact absurd hw (by simp)
  · exact absurd hw (by simp)

lemma dmaWord_agrees (h : FlagAgrees cp) (hk : dmaWordKeepsFlag id host cp = true) :
    FlagAgrees (dmaWord (cpu6502Ops id) host cp) := by
  have hmove : FlagAgrees (dmaMove (cpu6502Ops id) host cp) := by
    rw [dmaWordKeepsFlag] at hk
    rw [dmaMove]
    cases hd : cp.dmaToHost with
    | true =>
      rw [if_pos rfl, openbusMasterWrite32]
      rw [hd, if_pos rfl] at hk
      cases hwin : host.window cp.dmaHost with
      | some offset =>
        rw [hwin] at hk
        exact regWrite_agrees id host h hk
      | none => exact h.of_same rfl rfl rfl
    | false =>
      have hbus := openbusMasterRead32_bus (cpu6502Ops id) host cp cp.dmaHost
      have hcpu : (openbusMasterRead32 (cpu6502Ops id) host cp cp.dmaHost).2.cpu = cp.cpu := by
        rw [openbusMasterRead32]
        split
        · exact coprocRegRead_cpu _ cp _ _
        · rfl
      rw [if_neg Bool.false_ne_true]
      refine h.of_same (congrArg State.hooked hcpu) (congrArg State.canStall hcpu) ?_
      show (openbusMasterRead32 (cpu6502Ops id) host cp cp.dmaHost).2.bus.mapFields = _
      rw [hbus]
  exact ⟨hmove.1, hmove.2⟩

lemma loopSteps_restore {cycles : Nat} : ∀ (rounds used : Nat) (s : State) (env : CoprocEnv),
    s.hooked = true →
    (∀ v ∈ ((coreLoop step rounds used cycles).run s).visits coprocHandler env,
      coproBusCanStall v.1.bus = true → s.canStall = true) →
    ∀ w ∈ loopSteps cycles rounds used s env, stallsAlone w.1 w.2 = true → RestoresOwn w.1 w.2
  | 0, _, _, _, _, _, w, hw, _ => absurd hw (by simp [loopSteps])
  | rounds + 1, used, s, env, hh, hv, w, hw, halone => by
    rw [loopSteps] at hw
    rw [coreLoop] at hv
    by_cases hu : used < cycles
    · rw [if_pos hu, List.mem_cons] at hw
      rw [if_pos hu, StateT.run_bind, Prog.visits_bind] at hv
      rcases hw with rfl | hw
      · exact restoresOwn_of_agree hh (fun v hm => hv v (List.mem_append_left _ hm)) halone
      · split at hw
        · exact absurd hw (by simp)
        · rename_i hn
          have hflags := (flags_step s).of_run coprocHandler env
          refine loopSteps_restore rounds _ _ _ (hflags.hooked.trans hh) (fun v hm hs => ?_) w hw
            halone
          refine hflags.canStall.trans (hv v (List.mem_append_right _ ?_) hs)
          rw [if_neg hn]
          exact hm
    · rw [if_neg hu] at hw
      exact absurd hw (by simp)

lemma flags_coreLoop (cycles : Nat) :
    ∀ rounds used : Nat, Respects Flags (coreLoop step rounds used cycles)
  | 0, _ => flags_pieces.pure _
  | rounds + 1, used => by
    rw [coreLoop]
    refine Respects.of_ite (flags_pieces.bind flags_step fun n => ?_) (flags_pieces.pure _)
    exact Respects.of_ite (flags_pieces.pure _) (flags_coreLoop cycles rounds _)

lemma coprocRunCore_agrees (h : FlagAgrees cp) {budget : Nat}
    (hk : execKeepsFlag (run (coreBudget cp budget)) cp = true) :
    FlagAgrees (coprocRunCore (cpu6502Ops id) host cp budget).2 := by
  have hexec := (exec_agrees (flags_coreLoop _ _ 0) h hk).1
  have hcharge : ∀ (cp : Coproc State η) (ran : Nat), FlagAgrees cp →
      FlagAgrees (coprocStopReason (cpu6502Ops id) (coprocChargeRunfor cp ran)) := by
    intro cp ran h
    refine h.of_same ?_ ?_ ?_
    · simp only [coprocStopReason, coprocChargeRunfor]
      split_ifs <;> rfl
    · simp only [coprocStopReason, coprocChargeRunfor]
      split_ifs <;> rfl
    · rw [coprocStopReason_bus, coprocChargeRunfor_bus]
  exact coprocNoteStop_agrees id host (hcharge _ _ hexec)

lemma coprocRunTransfer_agrees (h : FlagAgrees cp) {cycles : Int}
    (hk : ∀ s ∈ dmaSeen (cpu6502Ops id) host cp cycles, dmaWordKeepsFlag id host s = true) :
    (∀ s ∈ dmaSeen (cpu6502Ops id) host cp cycles, FlagAgrees s) ∧
      FlagAgrees (coprocRunTransfer (cpu6502Ops id) host cp cycles).2 := by
  rw [coprocRunTransfer]
  rw [dmaSeen] at hk ⊢
  cases hbusy : cp.dmaBusy with
  | false => exact ⟨fun s hs => absurd hs (by simp), h⟩
  | true =>
    rw [hbusy, if_pos rfl] at hk
    obtain ⟨hseen, hlast⟩ := dmaCycles_inv (I := FlagAgrees) (cpu6502Ops id) host
      (fun cp h _ hc => dmaWord_agrees id host h hc) cycles.toNat h hk
    refine ⟨fun s hs => (hseen s hs).1, ?_⟩
    simp only [if_true, coprocRunDma]
    split
    · exact ⟨hlast.1, hlast.2⟩
    · exact hlast

end Agrees

/-- **One event**: it leaves them agreeing, and every step taken in it restores its own registers. -/
lemma cardStep_agrees {cp : Coproc State η} (h : FlagAgrees cp) (e : CardEvent)
    (hk : eventKeepsFlag id host cp e = true) :
    FlagAgrees (cardStep (cpu6502Ops id) host cp e) ∧
      ∀ w ∈ eventSteps id host cp e, stallsAlone w.1 w.2 = true → RestoresOwn w.1 w.2 := by
  cases e with
  | regWrite offset size val =>
    exact ⟨regWrite_agrees id host h hk, regWriteSteps_restore id h hk⟩
  | regRead offset size =>
    have hcpu := coprocRegRead_cpu (cpu6502Ops id) cp offset size
    refine ⟨h.of_same (congrArg State.hooked hcpu) (congrArg State.canStall hcpu) ?_,
      fun w hw => absurd hw (by simp [eventSteps])⟩
    exact congrArg CoproBus.mapFields (coprocRegRead_bus (cpu6502Ops id) cp offset size)
  | reset =>
    exact ⟨coprocReset_agrees id host h, fun w hw => absurd hw (by simp [eventSteps])⟩
  | access e =>
    exact ⟨⟨h.hooked, hk⟩, fun w hw => absurd hw (by simp [eventSteps])⟩
  | logPop =>
    refine ⟨h.of_same rfl rfl ?_, fun w hw => absurd hw (by simp [eventSteps])⟩
    simp only [cardStep, Coproc.setBus, coproBusLogPop]
    split <;> rfl
  | run cycles =>
    simp only [cardStep, coprocRun, eventKeepsFlag, eventSteps] at hk ⊢
    by_cases hc : cycles ≤ 0
    · simp only [if_pos hc]
      exact ⟨h, fun w hw => absurd hw (by simp)⟩
    · simp only [if_neg hc, Bool.and_eq_true, List.all_eq_true] at hk ⊢
      obtain ⟨hdma, hcore⟩ := hk
      obtain ⟨hseen, hrest⟩ := coprocRunTransfer_agrees id host h hdma
      have hsteps : ∀ w ∈ (dmaSeen (cpu6502Ops id) host cp cycles).flatMap (dmaWordSteps host),
          stallsAlone w.1 w.2 = true → RestoresOwn w.1 w.2 := by
        intro w hw
        obtain ⟨s, hs, hw⟩ := List.mem_flatMap.mp hw
        have hks := hdma s hs
        rw [dmaWordSteps] at hw
        rw [dmaWordKeepsFlag] at hks
        split at hw
        · rename_i hd
          rw [if_pos hd] at hks
          split at hw
          · rename_i offset hwin
            rw [hwin] at hks
            exact regWriteSteps_restore id (hseen s hs) hks w hw
          · exact absurd hw (by simp)
        · exact absurd hw (by simp)
      set rest := coprocRunTransfer (cpu6502Ops id) host cp cycles with hrestdef
      rw [coprocRunRest]
      cases hruns : coreRuns rest cycles with
      | true =>
        rw [hruns, Bool.not_true, Bool.false_or] at hcore
        have hcond : (decide (rest.2.ctrl &&& ctrlRun ≠ 0) && decide (rest.1 < cycles.toNat))
            = true := hruns
        rw [if_pos hcond]
        refine ⟨coprocRunCore_agrees id host hrest hcore, fun w hw => ?_⟩
        rw [if_pos rfl, List.mem_append] at hw
        rcases hw with hw | hw
        · exact hsteps w hw
        · obtain ⟨-, hv⟩ := exec_agrees (flags_coreLoop _ _ 0) hrest hcore
          exact loopSteps_restore _ _ _ _ hrest.hooked hv w hw
      | false =>
        have hcond : ¬ (decide (rest.2.ctrl &&& ctrlRun ≠ 0) && decide (rest.1 < cycles.toNat))
            = true := by
          rw [show (decide (rest.2.ctrl &&& ctrlRun ≠ 0) && decide (rest.1 < cycles.toNat))
            = false from hruns]
          decide
        rw [if_neg hcond]
        refine ⟨?_, fun w hw => ?_⟩
        · split
          · exact ⟨hrest.1, hrest.2⟩
          · exact hrest
        · rw [if_neg Bool.false_ne_true, List.append_nil] at hw
          exact hsteps w hw

instance (s : State) (env : CoprocEnv) : Decidable (RestoresOwn s env) :=
  inferInstanceAs (Decidable (_ → _))

/-- The event keeps the flag, and none of its steps stalls in a BRK or beside a bus error. -/
def StepsCovered (cp : Coproc State η) (e : CardEvent) : Prop :=
  eventKeepsFlag id host cp e = true ∧
    ∀ w ∈ eventSteps id host cp e, stallsAlone w.1 w.2 = true

instance (cp : Coproc State η) (e : CardEvent) : Decidable (StepsCovered id host cp e) :=
  inferInstanceAs (Decidable (_ ∧ _))

/-- Every step that stalls restores the registers. -/
def RegistersRestored (cp : Coproc State η) (e : CardEvent) : Prop :=
  ∀ w ∈ eventSteps id host cp e, RestoresOwn w.1 w.2

instance (cp : Coproc State η) (e : CardEvent) : Decidable (RegistersRestored id host cp e) :=
  inferInstanceAs (Decidable (∀ w ∈ eventSteps id host cp e, _))

/-- **Restored registers are always this instruction's**, along every history of a fitted 6502 card in
which nothing but a MAPCOUNT write gives the map a stalling region while the flag is clear. -/
theorem registersRestored_of_flagKept (core : OpenbusCoprocCore) (bytes : UInt32) (init : State)
    (h : η) (es : List CardEvent)
    (hc : Along (cardStep (cpu6502Ops id) host) (StepsCovered id host)
      (openbusCoprocFit (cpu6502Ops id) core bytes init h) es) :
    Along (cardStep (cpu6502Ops id) host) (RegistersRestored id host)
      (openbusCoprocFit (cpu6502Ops id) core bytes init h) es := by
  have hstart : FlagAgrees (openbusCoprocFit (cpu6502Ops id) core bytes init h) :=
    flagAgrees_rehook id _
  refine along_of_inv (I := FlagAgrees) (C := StepsCovered id host) ?_ ?_ es _ hstart hc
  · intro cp e hcp hce
    exact (cardStep_agrees id host hcp e hce.1).1
  · intro cp e hcp hce w hw
    exact (cardStep_agrees id host hcp e hce.1).2 w hw (hce.2 w hw)

end History

def cpu6502Card : Coproc State Unit :=
  openbusCoprocFit (cpu6502Ops 0x36353032) .m6502 0x1000 (init true 0x1000 false) ()

def onePage (kind : UInt32) : List CardEvent :=
  [.regWrite 0x80 .size32 0, .regWrite 0x84 .size32 0x10, .regWrite 0x84 .size32 0x10,
    .regWrite 0x84 .size32 kind, .regWrite 0x5c .size32 1]

/-- `LDA $10` put at 0x200 and stepped. -/
def stepLoad : List CardEvent :=
  [.regWrite 0x14 .size32 0x200, .regWrite 0x18 .size32 0x200, .regWrite 0x1c .size16 0x10a5,
    .regWrite 0x0c .size32 4, .regWrite 0x0c .size32 2]

theorem registersRestored_load :
    Along (cardStep (cpu6502Ops 0x36353032) emptyHost) (RegistersRestored 0x36353032 emptyHost)
      cpu6502Card (onePage 4 ++ stepLoad) :=
  registersRestored_of_flagKept 0x36353032 emptyHost .m6502 0x1000 (init true 0x1000 false) ()
    (onePage 4 ++ stepLoad) (by decide)

/-- **The gap.**  The region is RAM when MAPCOUNT is written, and is made a stalling one in place: the
load goes back to registers that were never its own. -/
theorem bank_switch_loses_registers :
    ¬ ∀ es : List CardEvent,
      Along (cardStep (cpu6502Ops 0x36353032) emptyHost) (RegistersRestored 0x36353032 emptyHost)
        cpu6502Card es := by
  intro h
  exact absurd (h (onePage 0 ++ [.regWrite 0x80 .size32 8, .regWrite 0x84 .size32 4] ++ stepLoad))
    (by decide)

end Cpu6502

end RpcEmu
