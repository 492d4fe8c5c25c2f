import RpcEmu.Copro.Stall

/-!
# Abandon, answer, retry

A core cannot wait in the middle of an instruction.  When an access stalls, the whole instruction is
abandoned; the guest answers; and the instruction is run again from its start, finding the answer
where it stalled.  What the guest is promised is that this looks like one run on a card where the
access was answered at once.
-/

namespace RpcEmu

open Effects

variable {α : Type}

/-- The card whose accesses are answered at once: its state carries the answers still to be given. -/
def answering : Handler CpuOp CpuOp.Reply (CoprocEnv × List UInt8)
  | op, (env, answers) =>
    if op.stallsOn env.bus then (op.okReply (answers.headD 0), (env, answers.tail))
    else ((coprocHandler op env).1, ((coprocHandler op env).2, answers))

lemma answering_of_plain {op : CpuOp} {env : CoprocEnv} {answers : List UInt8}
    (hs : op.stallsOn env.bus = false) :
    answering op (env, answers) = ((coprocHandler op env).1, ((coprocHandler op env).2, answers)) := by
  rw [answering, if_neg (by rw [hs]; decide)]

lemma answering_of_stalls {op : CpuOp} {env : CoprocEnv} {answers : List UInt8}
    (hs : op.stallsOn env.bus = true) :
    answering op (env, answers) = (op.okReply (answers.headD 0), (env, answers.tail)) := by
  rw [answering, if_pos hs]

/-- How many accesses of a run on `answering` would have stalled. -/
def stallCount (p : CpuProg α) (env : CoprocEnv) (answers : List UInt8) : Nat :=
  (p.visits answering (env, answers)).countP fun v => v.2.stallsOn v.1.1.bus

def firstStall : CpuProg α → CoprocEnv → Option BusAccess
  | .done _, _ => none
  | .ask op k, env =>
    if op.stalls (coprocHandler op env).1 then op.busAccess env.bus
    else firstStall (k (coprocHandler op env).1) (coprocHandler op env).2

/-- What an access of an abandoned run may do: stall, if it is the access `x`; or else succeed and
change nothing. -/
def Quiet (x : BusAccess) (env : CoprocEnv) (op : CpuOp) : Prop :=
  if op.stalls (coprocHandler op env).1 then op.busAccess env.bus = some x
  else op.errs (coprocHandler op env).1 = false ∧ (coprocHandler op env).2 = env

/-! ## The abandoned run -/

lemma stalls_not_errs {op : CpuOp} {r : op.Reply} (h : op.stalls r = true) : op.errs r = false := by
  cases op with
  | memRead addr =>
    obtain ⟨res, v⟩ := r
    cases res <;> simp_all [CpuOp.stalls, CpuOp.errs, CpuMemResult.isStall, CpuMemResult.isBusError]
  | memWrite addr val cycles =>
    cases r <;> simp_all [CpuOp.stalls, CpuOp.errs, CpuMemResult.isStall, CpuMemResult.isBusError]
  | ramRead addr => rfl
  | ramWrite addr val => rfl
  | ioIn port => rfl
  | ioOut port val => rfl

/-- **A quiet attempt** leaves the card waiting for the access it stalled at, and otherwise as it
was. -/
theorem attempt_quiet {x : BusAccess} :
    ∀ (p : CpuProg α) (env : CoprocEnv), env.bus.answerValid = false →
      (∀ v ∈ p.visits coprocHandler env, Quiet x v.1 v.2) →
      anyBusError (p.trace coprocHandler env) = false ∧
      ∃ h : Handshake, (p.run coprocHandler env).2 = env.setHandshake h ∧ h.answerValid = false ∧
        if anyStall (p.trace coprocHandler env) then h.WaitsFor x else h = env.bus.handshake
  | .done _, env, hv, _ => ⟨rfl, env.bus.handshake, rfl, hv, rfl⟩
  | .ask op k, env, hv, hq => by
    have hna : ¬ op.answered env.bus := CpuOp.not_answered_of_invalid hv
    have hhead : Quiet x env op := hq (env, op) (by simp)
    have htail := fun v hm => hq v (List.mem_cons_of_mem _ hm)
    have hst := stalls_iff_stallsOn hna
    cases hs : op.stallsOn env.bus with
    | true =>
      rw [hs] at hst
      rw [Quiet, if_pos hst] at hhead
      obtain ⟨a, r, ha, hr, hh⟩ := coprocHandler_of_stalls hna hs
      obtain rfl : a = x := by
        rw [ha] at hhead
        exact Option.some_inj.mp hhead
      obtain ⟨herr, h, hrun, hval, hwait⟩ := attempt_quiet (k (coprocHandler op env).1)
        (coprocHandler op env).2 (by rw [hh]; exact hv) htail
      refine ⟨?_, h, ?_, hval, ?_⟩
      · rw [Prog.trace_ask]
        simp only [anyBusError, List.any_cons, stalls_not_errs hst, Bool.false_or]
        exact herr
      · rw [Prog.run_ask, hrun, hh]
        rfl
      · rw [Prog.trace_ask]
        have hany : anyStall (⟨op, (coprocHandler op env).1⟩ ::
            (k (coprocHandler op env).1).trace coprocHandler (coprocHandler op env).2)
            = true := by simp only [anyStall, List.any_cons, hst, Bool.true_or]
        rw [if_pos hany]
        split at hwait
        · exact hwait
        · rw [hwait, hh]
          exact ⟨rfl, rfl, rfl, rfl⟩
    | false =>
      rw [hs] at hst
      rw [Quiet, if_neg (by rw [hst]; decide)] at hhead
      obtain ⟨herr, h, hrun, hval, hwait⟩ := attempt_quiet (k (coprocHandler op env).1)
        (coprocHandler op env).2 (by rw [hhead.2]; exact hv) htail
      refine ⟨?_, h, ?_, hval, ?_⟩
      · rw [Prog.trace_ask]
        simp only [anyBusError, List.any_cons, hhead.1, Bool.false_or]
        exact herr
      · rw [Prog.run_ask, hrun, hhead.2]
      · rw [Prog.trace_ask]
        simp only [anyStall, List.any_cons, hst, Bool.false_or] at hwait ⊢
        rw [hhead.2] at hwait
        rw [hhead.2]
        exact hwait

/-! ## The run that is retried -/

theorem run_of_noStall {env : CoprocEnv} {answers : List UInt8} {h : Handshake}
    (hv : env.bus.answerValid = false) (hh : h.answerValid = false) (p : CpuProg α)
    (hns : ∀ v ∈ p.visits answering (env, answers), v.2.stallsOn v.1.1.bus = false) :
    (p.run answering (env, answers)).1 = (p.run coprocHandler (env.setHandshake h)).1 ∧
    (p.run coprocHandler (env.setHandshake h)).2
      = (p.run answering (env, answers)).2.1.setHandshake h := by
  let R : CoprocEnv × List UInt8 → CoprocEnv → Prop :=
    fun st e => e = st.1.setHandshake h ∧ st.1.bus.answerValid = false
  have hstep : ∀ op st e, R st e → op.stallsOn st.1.bus = false →
      (answering op st).1 = (coprocHandler op e).1 ∧ R (answering op st).2 (coprocHandler op e).2 := by
    rintro op ⟨e, bs⟩ _ ⟨rfl, hv⟩ hs
    have hna : ¬ op.answered e.bus := CpuOp.not_answered_of_invalid hv
    have hna' : ¬ op.answered (e.bus.setHandshake h) := CpuOp.not_answered_of_invalid hh
    have hplain := coprocHandler_of_plain hna hs h hna'
    rw [answering_of_plain hs, hplain]
    refine ⟨rfl, rfl, ?_⟩
    exact (congrArg Handshake.answerValid (coprocHandler_handshake hna hs)).trans hv
  have hsim := Prog.run_sim (G := fun st op => op.stallsOn st.1.bus = false) hstep p (env, answers)
    (env.setHandshake h) ⟨rfl, hv⟩ hns
  exact ⟨hsim.1, hsim.2.1⟩

lemma stallCount_of_firstStall_none {answers : List UInt8} :
    ∀ (p : CpuProg α) (env : CoprocEnv), env.bus.answerValid = false → firstStall p env = none →
      stallCount p env answers = 0
  | .done _, _, _, _ => rfl
  | .ask op k, env, hv, hf => by
    have hna : ¬ op.answered env.bus := CpuOp.not_answered_of_invalid hv
    have hst := stalls_iff_stallsOn hna
    cases hs : op.stallsOn env.bus with
    | true =>
      obtain ⟨a, r, ha, -, -⟩ := coprocHandler_of_stalls hna hs
      rw [firstStall, if_pos (hst.trans hs), ha] at hf
      exact absurd hf (by simp)
    | false =>
      rw [firstStall, if_neg (by rw [hst, hs]; decide)] at hf
      have hval : (coprocHandler op env).2.bus.answerValid = false :=
        (congrArg Handshake.answerValid (coprocHandler_handshake hna hs)).trans hv
      rw [stallCount, Prog.visits_ask, answering_of_plain hs, List.countP_cons_of_neg (by simp [hs])]
      exact stallCount_of_firstStall_none (k _) _ hval hf

lemma okReply_congr {op : CpuOp} {bus : CoproBus} {x : BusAccess} {v b : UInt8}
    (hx : op.busAccess bus = some x) (hv : x.isWrite = false → v = b) :
    op.okReply v = op.okReply b := by
  cases op with
  | memRead addr =>
    simp only [CpuOp.busAccess] at hx
    split at hx
    · exact absurd hx (by simp)
    · obtain rfl := Option.some_inj.mp hx
      rw [hv rfl]
  | memWrite addr val cycles => rfl
  | ramRead addr => simp [CpuOp.busAccess] at hx
  | ramWrite addr val => rfl
  | ioIn port => simp [CpuOp.busAccess] at hx
  | ioOut port val => rfl

/-- A handshake that holds an answer `b` for the access `x`.  The answer to a write carries no
byte. -/
def Handshake.Answers (h : Handshake) (x : BusAccess) (b : UInt8) : Prop :=
  h.answerValid = true ∧ h.answerAddr = x.addr ∧ h.answerIsWrite = x.isWrite ∧
    (x.isWrite = false → h.answerValue.toUInt8 = b)

/-- **The retried run is the answered run**, where the answered access is made once and is the only
one at its address. -/
theorem retry_answered {x : BusAccess} {b : UInt8} {answers : List UInt8} {h : Handshake}
    (hans : h.Answers x b) :
    ∀ (p : CpuProg α) (env : CoprocEnv), env.bus.answerValid = false → firstStall p env = some x →
      stallCount p env (b :: answers) ≤ 1 →
      (∀ v ∈ p.visits answering (env, b :: answers), v.2.stallsOn v.1.1.bus = false →
        ∀ a ∈ v.2.busAccess v.1.1.bus, a.addr ≠ x.addr) →
      (p.run answering (env, b :: answers)).1 = (p.run coprocHandler (env.setHandshake h)).1 ∧
      ∃ h', (p.run coprocHandler (env.setHandshake h)).2
        = (p.run answering (env, b :: answers)).2.1.setHandshake h'
  | .done _, _, _, hf, _, _ => by simp [firstStall] at hf
  | .ask op k, env, hv, hf, hcount, honly => by
    have hna : ¬ op.answered env.bus := CpuOp.not_answered_of_invalid hv
    have hst := stalls_iff_stallsOn hna
    cases hs : op.stallsOn env.bus with
    | true =>
      -- the access that stalled: both runs get the answer, and it is the last that would stall
      rw [firstStall, if_pos (hst.trans hs)] at hf
      have hanswered : op.answered (env.setHandshake h).bus := by
        refine ⟨x, ?_, hans.1, hans.2.1, hans.2.2.1⟩
        rw [CoprocEnv.setHandshake, CpuOp.busAccess_setHandshake]
        exact hf
      have hhook := coprocHandler_of_answered hanswered
      have hstep : answering op (env, b :: answers) = (op.okReply b, (env, answers)) :=
        answering_of_stalls hs
      have hreply : op.okReply (env.setHandshake h).bus.answerValue.toUInt8 = op.okReply b :=
        okReply_congr hf hans.2.2.2
      rw [stallCount, Prog.visits_ask, List.countP_cons_of_pos (by simpa using hs)] at hcount
      have hzero := Nat.le_zero.mp (Nat.le_of_succ_le_succ hcount)
      rw [hstep] at hzero
      have hns := fun v hm => eq_false_of_ne_true (List.countP_eq_zero.mp hzero v hm)
      have hrest := run_of_noStall hv (h := { h with answerValid := false }) rfl
        (k (op.okReply b)) hns
      rw [Prog.run_ask, Prog.run_ask, hstep, hhook, hreply]
      exact ⟨hrest.1, _, hrest.2⟩
    | false =>
      rw [firstStall, if_neg (by rw [hst, hs]; decide)] at hf
      have hstep : answering op (env, b :: answers)
          = ((coprocHandler op env).1, ((coprocHandler op env).2, b :: answers)) :=
        answering_of_plain hs
      have hna' : ¬ op.answered (env.bus.setHandshake h) := by
        rintro ⟨a, ha, hmatch⟩
        rw [CpuOp.busAccess_setHandshake] at ha
        have hne := honly ((env, b :: answers), op) (by simp) hs a ha
        exact hne (hmatch.2.1.symm.trans hans.2.1)
      have hval : (coprocHandler op env).2.bus.answerValid = false :=
        (congrArg Handshake.answerValid (coprocHandler_handshake hna hs)).trans hv
      rw [stallCount, Prog.visits_ask, List.countP_cons_of_neg (by simp [hs]), hstep] at hcount
      have htail := fun v hm => honly v (List.mem_cons_of_mem _ hm)
      rw [hstep] at htail
      rw [Prog.run_ask, Prog.run_ask, hstep, coprocHandler_of_plain hna hs h hna']
      exact retry_answered hans (k _) _ hval hf hcount htail

/-! ## Counting accesses to one address -/

def CpuOp.touches (a : UInt32) (bus : CoproBus) (op : CpuOp) : Bool :=
  match op.busAccess bus with
  | none => false
  | some x => x.addr = a

/-- How many accesses of a run on `answering` reach an address. -/
def accessCount (p : CpuProg α) (env : CoprocEnv) (answers : List UInt8) (a : UInt32) : Nat :=
  (p.visits answering (env, answers)).countP fun v => v.2.touches a v.1.1.bus

/-- The accesses of a run on `answering` that would stall are all at one address. -/
def StallsOnlyAt (p : CpuProg α) (env : CoprocEnv) (answers : List UInt8) (a : UInt32) : Prop :=
  ∀ v ∈ p.visits answering (env, answers), v.2.stallsOn v.1.1.bus = true →
    v.2.touches a v.1.1.bus = true

instance (p : CpuProg α) (env : CoprocEnv) (answers : List UInt8) (a : UInt32) :
    Decidable (StallsOnlyAt p env answers a) :=
  inferInstanceAs (Decidable (∀ v ∈ p.visits answering (env, answers), _ → _))

lemma firstStall_visited {x : BusAccess} {answers : List UInt8} :
    ∀ (p : CpuProg α) (env : CoprocEnv), env.bus.answerValid = false → firstStall p env = some x →
      ∃ v ∈ p.visits answering (env, answers),
        v.2.stallsOn v.1.1.bus = true ∧ v.2.busAccess v.1.1.bus = some x
  | .done _, _, _, hf => by simp [firstStall] at hf
  | .ask op k, env, hv, hf => by
    have hna : ¬ op.answered env.bus := CpuOp.not_answered_of_invalid hv
    have hst := stalls_iff_stallsOn hna
    cases hs : op.stallsOn env.bus with
    | true =>
      rw [firstStall, if_pos (hst.trans hs)] at hf
      exact ⟨((env, answers), op), by simp, hs, hf⟩
    | false =>
      rw [firstStall, if_neg (by rw [hst, hs]; decide)] at hf
      have hval : (coprocHandler op env).2.bus.answerValid = false :=
        (congrArg Handshake.answerValid (coprocHandler_handshake hna hs)).trans hv
      obtain ⟨v, hm, hvs, hvx⟩ := firstStall_visited (k _) _ hval hf
      refine ⟨v, ?_, hvs, hvx⟩
      rw [Prog.visits_ask, answering_of_plain hs]
      exact List.mem_cons_of_mem _ hm

section Once

variable {p : CpuProg α} {env : CoprocEnv} {x : BusAccess} {answers : List UInt8} {a : UInt32}
  (hv : env.bus.answerValid = false) (hf : firstStall p env = some x)
  (honly : StallsOnlyAt p env answers a)
include hv hf honly

lemma StallsOnlyAt.addr_eq : x.addr = a := by
  obtain ⟨v, hm, hs, hx⟩ := firstStall_visited p env hv hf
  have ht := honly v hm hs
  simpa [CpuOp.touches, hx] using ht

lemma StallsOnlyAt.one_le_accessCount : 1 ≤ accessCount p env answers a := by
  obtain ⟨v, hm, hs, -⟩ := firstStall_visited p env hv hf
  exact List.one_le_countP_iff.mpr ⟨v, hm, honly v hm hs⟩

lemma StallsOnlyAt.of_once (honce : accessCount p env answers a ≤ 1) :
    stallCount p env answers ≤ 1 ∧
    ∀ v ∈ p.visits answering (env, answers), v.2.stallsOn v.1.1.bus = false →
      ∀ y ∈ v.2.busAccess v.1.1.bus, y.addr ≠ x.addr := by
  refine ⟨(List.countP_mono_left honly).trans honce, fun v hm hns y hy haddr => ?_⟩
  obtain ⟨w, hw, hws, -⟩ := firstStall_visited p env hv hf
  have hta := honly w hw hws
  have htv : v.2.touches a v.1.1.bus = true := by
    simpa [CpuOp.touches, Option.mem_def.mp hy] using haddr.trans (honly.addr_eq hv hf)
  -- the two are different accesses, so the address is accessed twice
  obtain ⟨l, r, hl⟩ := List.append_of_mem hw
  rw [accessCount, hl, List.countP_append, List.countP_cons_of_pos (by simpa using hta)] at honce
  have hzero : (l ++ r).countP (fun v => v.2.touches a v.1.1.bus) = 0 := by
    rw [List.countP_append]
    omega
  have hne : v ≠ w := by
    rintro rfl
    exact absurd (hns.symm.trans hws) (by decide)
  have hmem : v ∈ l ++ r := by
    rw [hl, List.mem_append, List.mem_cons] at hm
    rcases hm with hm | hm | hm
    · exact List.mem_append_left _ hm
    · exact absurd hm hne
    · exact List.mem_append_right _ hm
  exact absurd htv (by simpa using List.countP_eq_zero.mp hzero v hmem)

end Once

/-! ## The guest's loop -/

/-- `copro_bus_resume`, on the card. -/
def CoprocEnv.resume (env : CoprocEnv) (b : UInt8) : CoprocEnv :=
  { env with bus := (coproBusResume env.bus b).2 }

/-- The guest's loop: step; while the core is stalled, answer with the next byte, clear the stall and
step again.  `none` if the answers run out first. -/
def retry {σ : Type} (ops : CoreOps σ) : List UInt8 → σ → CoprocEnv → Option (σ × CoprocEnv)
  | [], s, env =>
    let out := play coprocHandler ops.step s env
    if ops.stalled out.1.2 then none else some (out.1.2, out.2)
  | b :: answers, s, env =>
    let out := play coprocHandler ops.step s env
    if ops.stalled out.1.2 then retry ops answers (ops.clearStall out.1.2) (out.2.resume b)
    else some (out.1.2, out.2)

lemma retry_of_running {σ : Type} {ops : CoreOps σ} {s : σ} {env : CoprocEnv}
    (h : ops.stalled (play coprocHandler ops.step s env).1.2 = false) (answers : List UInt8) :
    retry ops answers s env
      = some ((play coprocHandler ops.step s env).1.2, (play coprocHandler ops.step s env).2) := by
  cases answers <;> simp [retry, h]

lemma retry_of_stalled {σ : Type} {ops : CoreOps σ} {s : σ} {env : CoprocEnv}
    (h : ops.stalled (play coprocHandler ops.step s env).1.2 = true) (b : UInt8)
    (answers : List UInt8) :
    retry ops (b :: answers) s env
      = retry ops answers (ops.clearStall (play coprocHandler ops.step s env).1.2)
          ((play coprocHandler ops.step s env).2.resume b) := by
  simp [retry, h]

/-- **The answer is for the waiting access.** -/
lemma resume_answers (env : CoprocEnv) {h : Handshake} {x : BusAccess} (hw : h.WaitsFor x)
    (b : UInt8) :
    ∃ h' : Handshake, (env.setHandshake h).resume b = env.setHandshake h' ∧ h'.Answers x b := by
  obtain ⟨h1, h2, h3, -⟩ := hw
  have hst : ¬ (!(env.setHandshake h).bus.stalled) = true := by
    rw [show (env.setHandshake h).bus.stalled = true from h1]
    decide
  refine ⟨((env.setHandshake h).resume b).bus.handshake, ?_, ?_⟩
  · simp only [CoprocEnv.resume, coproBusResume, if_neg hst]
    rfl
  · simp only [CoprocEnv.resume, coproBusResume, if_neg hst]
    refine ⟨rfl, h2, h3, fun hr => ?_⟩
    have hdir : (env.setHandshake h).bus.waitIsWrite = false := h3.trans hr
    simp [CoproBus.handshake, hdir]

/-! ## What comes back from an answered run -/

lemma okReply_not_stalls (op : CpuOp) (b : UInt8) : op.stalls (op.okReply b) = false := by
  cases op <;> rfl

lemma answering_noStall :
    ∀ (p : CpuProg α) (env : CoprocEnv) (answers : List UInt8), env.bus.answerValid = false →
      anyStall (p.trace answering (env, answers)) = false
  | .done _, _, _, _ => rfl
  | .ask op k, env, answers, hv => by
    have hna : ¬ op.answered env.bus := CpuOp.not_answered_of_invalid hv
    cases hs : op.stallsOn env.bus with
    | true =>
      rw [Prog.trace_ask, answering_of_stalls hs, anyStall, List.any_cons,
        okReply_not_stalls, Bool.false_or]
      exact answering_noStall (k _) env answers.tail hv
    | false =>
      have hval : (coprocHandler op env).2.bus.answerValid = false :=
        (congrArg Handshake.answerValid (coprocHandler_handshake hna hs)).trans hv
      rw [Prog.trace_ask, answering_of_plain hs, anyStall, List.any_cons,
        stalls_iff_stallsOn hna, hs, Bool.false_or]
      exact answering_noStall (k _) _ answers hval

lemma anyStall_of_firstStall {x : BusAccess} :
    ∀ (p : CpuProg α) (env : CoprocEnv), firstStall p env = some x →
      anyStall (p.trace coprocHandler env) = true
  | .done _, _, hf => by simp [firstStall] at hf
  | .ask op k, env, hf => by
    rw [firstStall] at hf
    rw [Prog.trace_ask, anyStall, List.any_cons, Bool.or_eq_true]
    split at hf
    · rename_i hs
      exact .inl hs
    · exact .inr (anyStall_of_firstStall (k _) _ hf)

end RpcEmu
