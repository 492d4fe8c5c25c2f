import RpcEmu.Copro.Retry
import RpcEmu.Cpu.M6502Abandon

/-!
# A stall the 6502's program does not see

The 6502 on the card: an instruction that stalls is abandoned, answered and retried, and what is left
should be what one run with the answer to hand leaves.  `Transparent` says so, and
`transparent_of_stallsCleanly` proves it for every 6502 and 65C02 core, memory and map, **under the
three things the retry rests on** (`StallsCleanly`): no old answer is pending, the abandoned run — which
goes on with a zero after the stall — leaves no trace of its own, and the stalling address is accessed
once.

The last is where the code falls short of what `cpu_mem.h` says of a read-modify-write: its read and
its write compete for the one answer the bus keeps, and no attempt finds both
(`increment_not_transparent`).
-/

namespace RpcEmu

open Effects

namespace Cpu6502

/-! ## The core between two attempts -/

lemma step_stopped {s : State} (h : (s.halted || s.faulted) = true) : step.run s = .done (0, s) := by
  rw [step, StateT.run_bind, StateT.run_get, pure_bind, if_pos (by simp [h])]
  rfl

lemma step_running {s : State} (h : (s.halted || s.faulted || s.stalled) = false) :
    step.run s = StateT.run (do
      let op ← fetch8
      let s ← get
      if s.faulted then pure 0
      else if s.stalled then abandon
      else execute op (decode s.cmos op)) s.prepare := by
  rw [step, StateT.run_bind, StateT.run_get, pure_bind, if_neg (by rw [h]; decide),
    StateT.run_bind, StateT.run_modify, pure_bind]

/-- **The second attempt is the first again.** -/
lemma step_again {s t : State} (hcan : s.canStall = true) (h : Abandoned s t)
    (hrun : (s.halted || s.faulted || s.stalled) = false) :
    step.run { t with stalled := false } = step.run s := by
  simp only [Bool.or_eq_false_iff] at hrun
  have hprep : State.prepare { t with stalled := false } = s.prepare := by
    rw [h]
    simp [State.prepare, hcan, hrun]
  have hrun' : (({ t with stalled := false } : State).halted ||
      ({ t with stalled := false } : State).faulted ||
      ({ t with stalled := false } : State).stalled) = false := by
    rw [h]
    simp [State.prepare, hrun]
  rw [step_running hrun', step_running (by simp [hrun]), hprep]

def State.broke (s : State) : State :=
  { s with pc := s.pc + 1, halted := true, haltReason := haltBrk, exitCode := s.a.toUInt32,
           cycles := s.cycles + 7 }

lemma step_brk {s : State} (hh : s.hooked = true) (hf : s.faulted = false) (hst : s.stalled = false)
    (hhalt : s.halted = false) {op : UInt8} (hd : decode s.cmos op = .brk) :
    ∃ k, step.run s = .ask (.memRead s.pc.toUInt32) k ∧
      k (.ok, op) = .ask (.memRead (s.pc + 1).toUInt32) fun r =>
        .done (7, (replied s.fetched (s.pc + 1).toUInt32 r).2.broke) := by
  rw [step_running (by simp [hhalt, hf, hst]), StateT.run_bind,
    run_fetch8 (show s.prepare.hooked = true from hh)]
  refine ⟨_, rfl, ?_⟩
  show StateT.run (get >>= _) _ = _
  rw [StateT.run_bind, StateT.run_get, pure_bind, if_neg (by simp [replied, State.prepare, hf]),
    if_neg (by simp [replied, State.prepare, hst])]
  show StateT.run (execute op (decode s.cmos op)) s.fetched = _
  rw [hd, execute, StateT.run_bind, run_fetch8 (show s.fetched.hooked = true from hh)]
  rfl

/-! ## Transparency -/

/-- **Stalling is transparent** to one instruction: if its accesses touch one stalling address, then
the guest's loop, given an answer for each access to it, completes the instruction, and the core and
the card are those of a run with the answers to hand.  Only the bus's handshake may differ. -/
def Transparent (id : UInt32) (s : State) (env : CoprocEnv) (answers : List UInt8) : Prop :=
  ∀ a, StallsOnlyAt (step.run s) env answers a →
    accessCount (step.run s) env answers a ≤ answers.length →
    ∃ h, retry (cpu6502Ops id) (answers.take (accessCount (step.run s) env answers a)) s env
      = some (((step.run s).run answering (env, answers)).1.2,
          ((step.run s).run answering (env, answers)).2.1.setHandshake h)

/-- The stall meets nothing that the retry would see. -/
structure StallsCleanly (s : State) (env : CoprocEnv) (answers : List UInt8) : Prop where
  /-- no answer to an earlier access is pending -/
  noAnswer : env.bus.answerValid = false
  /-- every access of the abandoned run succeeds and changes nothing, or is the one that stalled -/
  quiet : ∀ x ∈ firstStall (step.run s) env, ∀ v ∈ (step.run s).visits coprocHandler env,
    Quiet x v.1 v.2
  /-- the stalling address is accessed once -/
  once : ∀ x ∈ firstStall (step.run s) env, accessCount (step.run s) env answers x.addr ≤ 1

section Loop

variable {id : UInt32} {s : State} {env : CoprocEnv} {answers : List UInt8}

lemma play_ops_step (id : UInt32) (s : State) (env : CoprocEnv) :
    play coprocHandler (cpu6502Ops id).step s env
      = (((), ((step.run s).run coprocHandler env).1.2), ((step.run s).run coprocHandler env).2) := by
  show play coprocHandler (step >>= fun _ => pure ()) s env = _
  rw [play_bind]
  rfl

lemma retry_done (h : ((step.run s).run coprocHandler env).1.2.stalled = false) :
    retry (cpu6502Ops id) answers s env
      = some (((step.run s).run coprocHandler env).1.2, ((step.run s).run coprocHandler env).2) := by
  have hplay := play_ops_step id s env
  rw [retry_of_running (by rw [hplay]; exact h), hplay]

lemma retry_stalled (h : ((step.run s).run coprocHandler env).1.2.stalled = true) (b : UInt8) :
    retry (cpu6502Ops id) (b :: answers) s env
      = retry (cpu6502Ops id) answers
          { ((step.run s).run coprocHandler env).1.2 with stalled := false }
          (((step.run s).run coprocHandler env).2.resume b) := by
  have hplay := play_ops_step id s env
  rw [retry_of_stalled (by rw [hplay]; exact h), hplay]
  rfl

lemma retry_of_noStall (hv : env.bus.answerValid = false) (hf : firstStall (step.run s) env = none)
    (href : ((step.run s).run answering (env, answers)).1.2.stalled = false)
    (given : List UInt8) :
    ∃ h, retry (cpu6502Ops id) given s env
      = some (((step.run s).run answering (env, answers)).1.2,
          ((step.run s).run answering (env, answers)).2.1.setHandshake h) := by
  have hzero : stallCount (step.run s) env answers = 0 :=
    stallCount_of_firstStall_none (step.run s) env hv hf
  have hns := List.countP_eq_zero.mp hzero
  obtain ⟨hrun, henv⟩ := run_of_noStall (h := env.bus.handshake) hv hv (step.run s)
    fun v hm => eq_false_of_ne_true (hns v hm)
  rw [CoprocEnv.setHandshake_self] at hrun henv
  rw [hrun] at href
  refine ⟨env.bus.handshake, ?_⟩
  rw [retry_done href, hrun, henv]

lemma retry_of_abandoned {x : BusAccess} {b : UInt8} {h : Handshake} {t : State}
    (hcan : s.canStall = true) (hrun : (s.halted || s.faulted || s.stalled) = false)
    (ht : Abandoned s t) (hv : env.bus.answerValid = false)
    (hf : firstStall (step.run s) env = some x)
    (honly : StallsOnlyAt (step.run s) env (b :: answers) x.addr)
    (honce : accessCount (step.run s) env (b :: answers) x.addr ≤ 1) (hans : h.Answers x b)
    (href : ((step.run s).run answering (env, b :: answers)).1.2.stalled = false) :
    ∃ h', retry (cpu6502Ops id) [] { t with stalled := false } (env.setHandshake h)
      = some (((step.run s).run answering (env, b :: answers)).1.2,
          ((step.run s).run answering (env, b :: answers)).2.1.setHandshake h') := by
  obtain ⟨hcount, hother⟩ := honly.of_once hv hf honce
  obtain ⟨hres, h', henv⟩ := retry_answered hans (step.run s) env hv hf hcount hother
  have hstep := step_again hcan ht hrun
  rw [hres] at href
  refine ⟨h', ?_⟩
  rw [retry_done (by rw [hstep]; exact href), hstep, hres, henv]

lemma retry_of_brk {x : BusAccess} {b : UInt8} (hh : s.hooked = true)
    (hrun : (s.halted || s.faulted || s.stalled) = false) (hv : env.bus.answerValid = false)
    (hquiet : ∀ v ∈ (step.run s).visits coprocHandler env, Quiet x v.1 v.2)
    (hbrk : BrkTrace s ((step.run s).trace coprocHandler env))
    (hstall : anyStall ((step.run s).trace coprocHandler env) = true) (h : Handshake) :
    retry (cpu6502Ops id) []
        { ((step.run s).run coprocHandler env).1.2 with stalled := false } (env.setHandshake h)
      = some (((step.run s).run answering (env, b :: answers)).1.2,
          ((step.run s).run answering (env, b :: answers)).2.1.setHandshake h) := by
  obtain ⟨op, r, hd, htr⟩ := hbrk
  simp only [Bool.or_eq_false_iff] at hrun
  obtain ⟨⟨hhalt, hf⟩, hst⟩ := hrun
  obtain ⟨k, hp, hk⟩ := step_brk hh hf hst hhalt hd
  rw [hp, Prog.trace_ask] at htr
  have hfetch : (coprocHandler (.memRead s.pc.toUInt32) env).1 = (.ok, op) :=
    eq_of_heq (Sigma.mk.inj (List.cons.inj htr).1).2
  rw [hp] at hquiet hstall ⊢
  -- the opcode is read and changes nothing
  have hquiet' := hquiet (env, .memRead s.pc.toUInt32) (by simp)
  rw [Quiet, hfetch, if_neg (by simp [CpuOp.stalls, CpuMemResult.isStall])] at hquiet'
  have hsame : coprocHandler (.memRead s.pc.toUInt32) env = ((.ok, op), env) :=
    Prod.ext hfetch hquiet'.2
  have hna : ∀ o : CpuOp, ¬ o.answered env.bus := fun _ => CpuOp.not_answered_of_invalid hv
  have hplain : CpuOp.stallsOn env.bus (.memRead s.pc.toUInt32) = false := by
    rw [← stalls_iff_stallsOn (hna _), hsame]
    rfl
  -- the second byte stalls
  rw [Prog.trace_ask, hsame, hk] at hstall
  have hsecond : CpuOp.stalls (.memRead (s.pc + 1).toUInt32)
      (coprocHandler (.memRead (s.pc + 1).toUInt32) env).1 = true := by
    simpa [anyStall, CpuOp.stalls, CpuMemResult.isStall] using hstall
  have hon := (stalls_iff_stallsOn (hna _)).symm.trans hsecond
  obtain ⟨v, hv'⟩ : ∃ v, (coprocHandler (.memRead (s.pc + 1).toUInt32) env).1 = (.stall, v) := by
    generalize (coprocHandler (.memRead (s.pc + 1).toUInt32) env).1 = reply at hsecond
    obtain ⟨res, v⟩ := reply
    cases res <;> simp_all [CpuOp.stalls, CpuMemResult.isStall]
  rw [Prog.run_ask, Prog.run_ask, hsame, answering_of_plain hplain, hsame, hk, Prog.run_ask,
    Prog.run_ask, hv', answering_of_stalls hon, Prog.run_done, Prog.run_done,
    retry_done (by rw [step_stopped rfl]; rfl), step_stopped rfl]
  simp only [Prog.run_done, replied, CpuOp.okReply, State.broke, State.fetched, State.prepare, hst]

end Loop

/-- **Stalling is transparent** where an instruction stalls cleanly, on every 6502 and 65C02, for every
memory, map and answers. -/
theorem transparent_of_stallsCleanly (id : UInt32) (s : State) (env : CoprocEnv)
    (answers : List UInt8) (hh : s.hooked = true) (hcan : s.canStall = true)
    (hst : s.stalled = false) (h : StallsCleanly s env answers) :
    Transparent id s env answers := by
  intro a honly hlen
  by_cases hstop : (s.halted || s.faulted) = true
  · have hp := step_stopped hstop
    refine ⟨env.bus.handshake, ?_⟩
    rw [retry_done (by rw [hp]; exact hst), hp]
    rfl
  · have hrun : (s.halted || s.faulted || s.stalled) = false := by simp [hstop, hst]
    obtain ⟨hhalt, hf⟩ : s.halted = false ∧ s.faulted = false := by simpa using hstop
    have hends := step_ends hh hcan hf hst hhalt
    have href := ((hends.of_run answering (env, answers)).1).trans
      (answering_noStall (step.run s) env answers h.noAnswer)
    cases hfs : firstStall (step.run s) env with
    | none => exact retry_of_noStall h.noAnswer hfs href _
    | some x =>
      obtain ⟨herr, w, henv, -, hwait⟩ := attempt_quiet (step.run s) env h.noAnswer
        (h.quiet x hfs)
      have hstall := anyStall_of_firstStall (step.run s) env hfs
      rw [if_pos hstall] at hwait
      obtain ⟨hflag, hend⟩ := hends.of_run coprocHandler env
      have haddr := honly.addr_eq h.noAnswer hfs
      have hone : accessCount (step.run s) env answers a = 1 := by
        have hle := h.once x hfs
        rw [haddr] at hle
        exact Nat.le_antisymm hle (honly.one_le_accessCount h.noAnswer hfs)
      obtain ⟨b, rest, rfl⟩ : ∃ b rest, answers = b :: rest := by
        cases answers with
        | nil => simp [hone] at hlen
        | cons b rest => exact ⟨b, rest, rfl⟩
      obtain ⟨h', hresume, hans⟩ := resume_answers env hwait b
      rw [hone, List.take_succ_cons, List.take_zero,
        retry_stalled (hflag.trans hstall), henv, hresume]
      rcases hend hstall herr with ⟨-, hab⟩ | hbrk
      · exact retry_of_abandoned hcan hrun hab h.noAnswer hfs (haddr ▸ honly)
          (h.once x hfs) hans href
      · exact ⟨h', retry_of_brk hh hrun h.noAnswer (h.quiet x hfs) hbrk hstall h'⟩

def stallCore : State := { setMemHook (init true 0x10000 true) true with pc := 0x200 }

def stallCard (op operand : UInt8) : CoprocEnv where
  bus := { stallRegionBus with ram := (stallRegionBus.ram.set 0x200 op).set 0x201 operand }
  mboxTx := 0
  mboxRx := 0
  ports := fun _ => 0

theorem transparent_load : Transparent 1 stallCore (stallCard 0xa5 0x10) [0x55] := by
  have hvisits : (step.run stallCore).visits coprocHandler (stallCard 0xa5 0x10)
      = [(stallCard 0xa5 0x10, .memRead 0x200), (stallCard 0xa5 0x10, .memRead 0x201),
          (stallCard 0xa5 0x10, .memRead 0x10)] := rfl
  have hfirst : firstStall (step.run stallCore) (stallCard 0xa5 0x10)
      = some ⟨0x10, false, false⟩ := by decide
  refine transparent_of_stallsCleanly 1 stallCore (stallCard 0xa5 0x10) [0x55] rfl rfl rfl
    ⟨rfl, ?_, ?_⟩
  · rw [hfirst]
    rintro x ⟨rfl⟩ v hv
    rw [hvisits] at hv
    simp only [List.mem_cons, List.not_mem_nil, or_false] at hv
    rcases hv with rfl | rfl | rfl
    · exact ⟨rfl, rfl⟩
    · exact ⟨rfl, rfl⟩
    · exact rfl
  · rw [hfirst]
    rintro x ⟨rfl⟩
    decide

/-- **The gap.**  `INC $10`: its read and its write compete for one answer, and after both answers the
instruction is still stalled. -/
theorem increment_not_transparent :
    ¬ ∀ (id : UInt32) (s : State) (env : CoprocEnv) (answers : List UInt8), s.hooked = true →
      s.canStall = true → s.stalled = false → env.bus.answerValid = false →
      Transparent id s env answers := by
  intro h
  obtain ⟨w, hw⟩ := h 1 stallCore (stallCard 0xe6 0x10) [0x55, 0x66] rfl rfl rfl rfl 0x10
    (by decide) (by decide)
  have hnone : (retry (cpu6502Ops 1) [0x55, 0x66] stallCore (stallCard 0xe6 0x10)).isNone = true := by
    decide
  exact absurd ((congrArg Option.isNone hw).symm.trans hnone) (by simp)

end Cpu6502

end RpcEmu
