import RpcEmu.Copro.CardDma
import RpcEmu.Cpu.M6502

/-!
# A budget of cycles, over however many timeslices

RUNFOR gives the core so many cycles and no more.  The card is given time in slices, a transfer has the first of it,
and an instruction is indivisible: a slice may be overrun by the last instruction in it.

The instructions that the core executes are those of `insnAt`, whatever the slices are (`runSlice`): a slice takes it
some instructions on, and what is left of the budget is what they have not cost.  So the core stops behind the first
instruction with which the budget is used up (`runfor_honoured`).
-/

namespace RpcEmu

open Effects

/-! ## The instructions -/

section Instructions

variable {σ : Type} (step : Exec σ Nat)

def insnStep (c : σ × CoprocEnv) : Nat × σ × CoprocEnv :=
  let out := (step.run c.1).run coprocHandler c.2
  (out.1.1, out.1.2, out.2)

def insnAt (c : σ × CoprocEnv) : Nat → σ × CoprocEnv
  | 0 => c
  | n + 1 => insnAt (insnStep step c).2 n

def insnTotal (c : σ × CoprocEnv) : Nat → Nat
  | 0 => 0
  | n + 1 => (insnStep step c).1 + insnTotal (insnStep step c).2 n

lemma insnAt_add (c : σ × CoprocEnv) (n k : Nat) : insnAt step c (n + k) = insnAt step (insnAt step c n) k := by
  induction n generalizing c with
  | zero => rw [Nat.zero_add, insnAt]
  | succ n ih =>
    rw [Nat.succ_add]
    exact ih _

lemma insnTotal_add (c : σ × CoprocEnv) (n k : Nat) :
    insnTotal step c (n + k) = insnTotal step c n + insnTotal step (insnAt step c n) k := by
  induction n generalizing c with
  | zero => rw [Nat.zero_add, insnTotal, insnAt, Nat.zero_add]
  | succ n ih =>
    rw [Nat.succ_add, insnTotal, insnTotal, insnAt, ih, Nat.add_assoc]

lemma insnTotal_succ (c : σ × CoprocEnv) (n : Nat) :
    insnTotal step c (n + 1) = insnTotal step c n + (insnStep step (insnAt step c n)).1 := by
  rw [insnTotal_add]
  rfl

lemma insnTotal_mono (c : σ × CoprocEnv) {m n : Nat} (h : m ≤ n) : insnTotal step c m ≤ insnTotal step c n := by
  obtain ⟨k, rfl⟩ := Nat.exists_eq_add_of_le h
  rw [insnTotal_add]
  exact Nat.le_add_right _ _

lemma coreLoop_insns (rounds used cycles : Nat) (c : σ × CoprocEnv) :
    ∃ k, ((coreLoop step rounds used cycles).run c.1).run coprocHandler c.2 =
        ((used + insnTotal step c k, (insnAt step c k).1), (insnAt step c k).2) ∧
      ∀ m < k, used + insnTotal step c m < cycles := by
  induction rounds generalizing used c with
  | zero => exact ⟨0, rfl, fun m hm => absurd hm (Nat.not_lt_zero m)⟩
  | succ rounds ih =>
    unfold coreLoop
    split
    next hlt =>
      rw [StateT.run_bind, Prog.run_bind]
      have hcost : ((step.run c.1).run coprocHandler c.2).1.1 = (insnStep step c).1 := rfl
      by_cases hzero : ((step.run c.1).run coprocHandler c.2).1.1 = 0
      · refine ⟨1, ?_, fun m hm => ?_⟩
        · rw [if_pos hzero]
          have htotal : insnTotal step c 1 = 0 := hcost.symm.trans hzero
          rw [htotal]
          rfl
        · obtain rfl := Nat.lt_one_iff.mp hm
          exact hlt
      · obtain ⟨k, hrun, hsofar⟩ := ih (used + (insnStep step c).1) (insnStep step c).2
        refine ⟨k + 1, ?_, fun m hm => ?_⟩
        · rw [if_neg hzero]
          refine hrun.trans ?_
          rw [insnTotal, Nat.add_assoc]
          rfl
        · cases m with
          | zero => exact hlt
          | succ m =>
            have hm' := hsofar m (Nat.lt_of_succ_lt_succ hm)
            rw [insnTotal, ← Nat.add_assoc]
            exact hm'
    next => exact ⟨0, rfl, fun m hm => absurd hm (Nat.not_lt_zero m)⟩

end Instructions

variable {σ η : Type} (ops : CoreOps σ) (host : HostBus η)

/-! ## The transfer -/

section Transfer

def Coproc.budgeted (cp : Coproc σ η) : σ × UInt32 × UInt32 × UInt32 × Bool :=
  (cp.cpu, cp.ctrl, cp.runfor, cp.stopReason, cp.dmaBusy)

/-- A transfer to the host misses every card's registers. -/
def DmaAway (cp : Coproc σ η) : Prop :=
  cp.dmaToHost = true → ∀ k < cp.dmaLen.toNat, host.window (cp.dmaHost + 4 * UInt32.ofNat k) = none

lemma dmaMove_budgeted {cp : Coproc σ η} (hw : cp.dmaToHost = true → host.window cp.dmaHost = none) :
    (dmaMove ops host cp).budgeted = cp.budgeted := by
  have hread : ∀ addr, (openbusMasterRead32 ops host cp addr).2.budgeted = cp.budgeted := by
    intro addr
    unfold openbusMasterRead32
    cases host.window addr with
    | none => rfl
    | some offset =>
      simp only [coprocRegRead, apertureRead, ctlApertureRead]
      split
      · split_ifs <;> rfl
      · split_ifs <;> rfl
      · rfl
  unfold dmaMove
  split
  next hd =>
    unfold openbusMasterWrite32
    rw [hw hd]
    rfl
  next => exact hread cp.dmaHost

lemma dmaCycles_counts (budget : Nat) {cp : Coproc σ η} (h : DmaAway host cp) :
    (dmaCycles ops host budget cp).2.1 = min budget cp.dmaLen.toNat ∧
      (dmaCycles ops host budget cp).2.2.dmaLen.toNat = cp.dmaLen.toNat - budget ∧
      (dmaCycles ops host budget cp).2.2.budgeted = cp.budgeted ∧
      DmaAway host (dmaCycles ops host budget cp).2.2 := by
  induction budget generalizing cp with
  | zero => exact ⟨(Nat.zero_min _).symm, rfl, rfl, h⟩
  | succ budget ih =>
    by_cases hlen : cp.dmaLen = 0
    · rw [dmaCycles, if_pos hlen]
      have hzero : cp.dmaLen.toNat = 0 := congrArg UInt32.toNat hlen
      exact ⟨by rw [hzero, Nat.min_zero], by rw [hzero, Nat.zero_sub], rfl, h⟩
    · obtain ⟨hw, hlast, haway⟩ := dmaWord_away ops host hlen h
      have hword : dmaWords ops host dmaWordsPerCycle cp = ([cp], dmaWord ops host cp) := by
        rw [dmaWordsPerCycle, dmaWords, if_neg hlen]
        rfl
      obtain ⟨hused, hleft, hkept, hrest⟩ := ih haway
      rw [dmaCycles, if_neg hlen, hword]
      have hpos : cp.dmaLen.toNat ≠ 0 := fun hc => hlen (UInt32.toNat_inj.mp hc)
      rw [hlast, toNat_sub_one_of_ne hlen] at hused hleft
      refine ⟨?_, ?_, ?_, hrest⟩
      · show (dmaCycles ops host budget (dmaWord ops host cp)).2.1 + 1 = _
        omega
      · show (dmaCycles ops host budget (dmaWord ops host cp)).2.2.dmaLen.toNat = _
        omega
      · exact hkept.trans (dmaMove_budgeted ops host hw)

lemma dmaCycles_of_none {cp : Coproc σ η} (h : cp.dmaLen = 0) (budget : Nat) :
    (dmaCycles ops host budget cp).2.2 = cp := by
  cases budget with
  | zero => rfl
  | succ budget => rw [dmaCycles, if_pos h]

lemma dmaCycles_add (a b : Nat) (cp : Coproc σ η) :
    (dmaCycles ops host (a + b) cp).2.2 = (dmaCycles ops host b (dmaCycles ops host a cp).2.2).2.2 := by
  induction a generalizing cp with
  | zero => rw [Nat.zero_add, dmaCycles]
  | succ a ih =>
    rw [Nat.succ_add]
    by_cases hlen : cp.dmaLen = 0
    · rw [dmaCycles_of_none ops host hlen, dmaCycles_of_none ops host hlen, dmaCycles_of_none ops host hlen]
    · rw [dmaCycles, if_neg hlen, dmaCycles, if_neg hlen]
      exact ih _

def transferred (cp : Coproc σ η) : Coproc σ η :=
  if cp.dmaBusy then (coprocRunDma ops host cp cp.dmaLen.toNat).2 else cp

lemma coprocRunTransfer_share {cp : Coproc σ η} (h : cp.dmaBusy = true → DmaAway host cp) (cycles : Int) :
    let share := coprocRunTransfer ops host cp cycles
    (share.2.dmaBusy = true → cp.dmaBusy = true ∧ DmaAway host share.2) ∧
      (share.2.cpu = cp.cpu ∧ share.2.ctrl = cp.ctrl ∧ share.2.runfor = cp.runfor ∧
        share.2.stopReason = cp.stopReason) ∧
      ((transferred ops host share.2).cpu, (transferred ops host share.2).env) =
        ((transferred ops host cp).cpu, (transferred ops host cp).env) ∧
      (share.1 < cycles.toNat → share.2.dmaBusy = false) := by
  intro share
  cases hbusy : cp.dmaBusy with
  | false =>
    have hshare : share = (0, cp) := if_neg (by rw [hbusy]; exact Bool.false_ne_true)
    rw [hshare]
    exact ⟨fun hb => absurd (hbusy.symm.trans hb) Bool.false_ne_true, ⟨rfl, rfl, rfl, rfl⟩, rfl, fun _ => hbusy⟩
  | true =>
    have haway := h hbusy
    have hshare : share = coprocRunDma ops host cp cycles.toNat := if_pos hbusy
    obtain ⟨hused, hleft, hkept, haway'⟩ := dmaCycles_counts ops host cycles.toNat haway
    have hend : transferred ops host cp = (coprocRunDma ops host cp cp.dmaLen.toNat).2 := if_pos hbusy
    obtain ⟨-, hnone, -, -⟩ := dmaCycles_counts ops host cp.dmaLen.toNat haway
    rw [Nat.sub_self] at hnone
    have hnone : (dmaCycles ops host cp.dmaLen.toNat cp).2.2.dmaLen = 0 := UInt32.toNat_inj.mp hnone
    simp only [Coproc.budgeted, Prod.mk.injEq] at hkept
    obtain ⟨hcpu, hctrl, hrunfor, hstop, hstill⟩ := hkept
    have hover : (coprocRunDma ops host cp cp.dmaLen.toNat).2.cpu = (dmaCycles ops host cp.dmaLen.toNat cp).2.2.cpu ∧
        (coprocRunDma ops host cp cp.dmaLen.toNat).2.env = (dmaCycles ops host cp.dmaLen.toNat cp).2.2.env := by
      unfold coprocRunDma
      dsimp only
      rw [if_pos hnone]
      exact ⟨rfl, rfl⟩
    have hrun : share = ((dmaCycles ops host cycles.toNat cp).2.1,
        if (dmaCycles ops host cycles.toNat cp).2.2.dmaLen = 0 then
          { (dmaCycles ops host cycles.toNat cp).2.2 with dmaBusy := false }
        else (dmaCycles ops host cycles.toNat cp).2.2) := hshare
    rw [hend, hover.1, hover.2]
    by_cases hlen : (dmaCycles ops host cycles.toNat cp).2.2.dmaLen = 0
    · rw [if_pos hlen] at hrun
      have hle : cp.dmaLen.toNat ≤ cycles.toNat := by
        have hzero := congrArg UInt32.toNat hlen
        rw [hleft] at hzero
        exact Nat.le_of_sub_eq_zero hzero
      obtain ⟨d, hd⟩ := Nat.exists_eq_add_of_le hle
      have hsame : (dmaCycles ops host cycles.toNat cp).2.2 = (dmaCycles ops host cp.dmaLen.toNat cp).2.2 := by
        rw [hd, dmaCycles_add]
        exact dmaCycles_of_none ops host hnone d
      rw [hrun]
      refine ⟨fun hb => absurd hb Bool.false_ne_true, ⟨hcpu, hctrl, hrunfor, hstop⟩, ?_, fun _ => rfl⟩
      rw [← hsame]
      rfl
    · rw [if_neg hlen] at hrun
      have hlt : cycles.toNat < cp.dmaLen.toNat := by
        rw [← Nat.not_le]
        exact fun hle => hlen (UInt32.toNat_inj.mp (hleft.trans (Nat.sub_eq_zero_of_le hle)))
      rw [hrun]
      refine ⟨fun _ => ⟨rfl, haway'⟩, ⟨hcpu, hctrl, hrunfor, hstop⟩, ?_, fun hshort => ?_⟩
      · have hrest : transferred ops host (dmaCycles ops host cycles.toNat cp).2.2 =
            (coprocRunDma ops host (dmaCycles ops host cycles.toNat cp).2.2
              (cp.dmaLen.toNat - cycles.toNat)).2 := by
          rw [transferred, if_pos (hstill.trans hbusy), hleft]
        have hsame : (dmaCycles ops host (cp.dmaLen.toNat - cycles.toNat)
            (dmaCycles ops host cycles.toNat cp).2.2).2.2 = (dmaCycles ops host cp.dmaLen.toNat cp).2.2 := by
          rw [← dmaCycles_add, Nat.add_sub_cancel' hlt.le]
        rw [hrest]
        unfold coprocRunDma
        dsimp only
        rw [hsame, if_pos hnone]
      · exact absurd (hused ▸ hshort : min cycles.toNat cp.dmaLen.toNat < cycles.toNat) (by omega)

end Transfer

/-! ## The budget -/

section Budget

variable (step : Exec σ Nat)

/-- A row of the table whose `run` is the loop over whole steps.  Every core's is. -/
abbrev CoreOps.stepping : CoreOps σ := { ops with run := coreRun step }

example : rv32iOps.stepping rv32iStep = rv32iOps := rfl

example (id : UInt32) : (Cpu6502.cpu6502Ops id).stepping Cpu6502.step = Cpu6502.cpu6502Ops id := rfl

/-- While the budget lasts the core does not stop of itself; what an instruction costs is an `int`. -/
def RunsFree (c : σ × CoprocEnv) (budget : Nat) : Prop :=
  ∀ n, (∀ m < n, insnTotal step c m < budget) →
    (ops.halted (insnAt step c n).1 = false ∧ ops.faulted (insnAt step c n).1 = false ∧
      ops.stalled (insnAt step c n).1 = false) ∧ (insnStep step (insnAt step c n)).1 < 2 ^ 31

def coreWhenTransferred (cp : Coproc σ η) : σ × CoprocEnv :=
  ((transferred (ops.stepping step) host cp).cpu, (transferred (ops.stepping step) host cp).env)

/-- Where the card stands after `n` instructions of its budget. -/
structure Spent (c : σ × CoprocEnv) (budget : Nat) (stop : UInt32) (n : Nat) (cp : Coproc σ η) : Prop where
  stands : coreWhenTransferred ops host step cp = insnAt step c n
  waits : cp.dmaBusy = true → n = 0 ∧ DmaAway host cp
  before : ∀ m < n, insnTotal step c m < budget
  going : insnTotal step c n < budget →
    cp.runfor.toNat = budget - insnTotal step c n ∧ cp.ctrl &&& ctrlRun ≠ 0 ∧ cp.stopReason = stop
  ended : budget ≤ insnTotal step c n → cp.ctrl &&& ctrlRun = 0 ∧ cp.stopReason = stopBudget

variable {ops host step} {c : σ × CoprocEnv} {budget n : Nat} {stop : UInt32} {cp : Coproc σ η}

lemma Spent.run_iff (h : Spent ops host step c budget stop n cp) :
    cp.ctrl &&& ctrlRun = 0 ↔ budget ≤ insnTotal step c n := by
  refine ⟨fun hctrl => ?_, fun hle => (h.ended hle).1⟩
  rw [← Nat.not_lt]
  exact fun hlt => (h.going hlt).2.1 hctrl

lemma coprocChargeRunfor_cpu (cp : Coproc σ η) (ran : Nat) : (coprocChargeRunfor cp ran).cpu = cp.cpu := by
  unfold coprocChargeRunfor
  dsimp only
  split_ifs <;> rfl

lemma coprocNoteStop_free (hhalted : ops.halted cp.cpu = false) (hfaulted : ops.faulted cp.cpu = false)
    (hstalled : ops.stalled cp.cpu = false) : coprocNoteStop ops host (coprocStopReason ops cp) = cp := by
  have hreason : coprocStopReason ops cp = cp := by
    unfold coprocStopReason
    rw [hfaulted, hhalted, hstalled]
    rfl
  rw [hreason]
  unfold coprocNoteStop
  rw [hhalted, hfaulted]
  exact ite_self cp

lemma coprocChargeRunfor_spent (hrunfor : cp.runfor ≠ 0) {ran : Nat} (hran : ran < 2 ^ 32) :
    (ran < cp.runfor.toNat → ∃ left : UInt32, left.toNat = cp.runfor.toNat - ran ∧
        coprocChargeRunfor cp ran = { cp with runfor := left }) ∧
      (cp.runfor.toNat ≤ ran → coprocChargeRunfor cp ran =
        { cp with runfor := 0, ctrl := cp.ctrl &&& ~~~ctrlRun, stopReason := stopBudget }) := by
  have htoNat : (UInt32.ofNat ran).toNat = ran := UInt32.toNat_ofNat_of_lt' hran
  unfold coprocChargeRunfor
  rw [if_neg hrunfor]
  have hsub : ran < cp.runfor.toNat → (cp.runfor - UInt32.ofNat ran).toNat = cp.runfor.toNat - ran := by
    intro hlt
    rw [UInt32.toNat_sub_of_le, htoNat]
    rw [UInt32.le_iff_toNat_le, htoNat]
    exact hlt.le
  refine ⟨fun hlt => ⟨cp.runfor - UInt32.ofNat ran, hsub hlt, ?_⟩, fun hle => ?_⟩
  · have hnot : ¬cp.runfor ≤ UInt32.ofNat ran := by
      rw [UInt32.le_iff_toNat_le, htoNat]
      exact Nat.not_le.mpr hlt
    have hleft : cp.runfor - UInt32.ofNat ran ≠ 0 := by
      intro hc
      have hzero := congrArg UInt32.toNat hc
      rw [hsub hlt] at hzero
      exact absurd (Nat.le_of_sub_eq_zero hzero) (Nat.not_le.mpr hlt)
    rw [if_neg hnot, if_neg hleft]
  · have hle' : cp.runfor ≤ UInt32.ofNat ran := UInt32.le_iff_toNat_le.mpr (htoNat.symm ▸ hle)
    rw [if_pos hle', if_pos rfl]

lemma coprocRunCore_spent (hfree : RunsFree ops step c budget) (h : Spent ops host step c budget stop n cp)
    (hidle : cp.dmaBusy = false) (hlt : insnTotal step c n < budget) {share : Nat} (hshare : share < 2 ^ 31) :
    ∃ k, (coprocRunCore (ops.stepping step) host cp share).1 = insnTotal step (insnAt step c n) k ∧
      Spent ops host step c budget stop (n + k) (coprocRunCore (ops.stepping step) host cp share).2 := by
  obtain ⟨hrunfor, hrun, hstop⟩ := h.going hlt
  have hpos : cp.runfor ≠ 0 := by
    intro hc
    have hzero := congrArg UInt32.toNat hc
    rw [hrunfor] at hzero
    exact absurd (Nat.le_of_sub_eq_zero hzero) (Nat.not_le.mpr hlt)
  have htransferred : transferred (ops.stepping step) host cp = cp := if_neg (by rw [hidle]; exact Bool.false_ne_true)
  have hstands : (cp.cpu, cp.env) = insnAt step c n := htransferred ▸ h.stands
  set cycles := if decide (cp.runfor ≠ 0) && decide (cp.runfor.toNat < share) then cp.runfor.toNat else share
    with hcycles
  have hcyclesLe : cycles ≤ cp.runfor.toNat ∧ cycles ≤ share := by
    rw [hcycles, decide_eq_true hpos, Bool.true_and]
    split
    next hless => exact ⟨le_rfl, (of_decide_eq_true hless).le⟩
    next hless =>
      rw [decide_eq_true_iff, Nat.not_lt] at hless
      exact ⟨hless, le_rfl⟩
  obtain ⟨k, hloop, hsofar⟩ := coreLoop_insns step cycles 0 cycles (cp.cpu, cp.env)
  rw [hstands, Nat.zero_add, ← insnAt_add] at hloop
  have hbefore : ∀ m < n + k, insnTotal step c m < budget := by
    intro m hm
    rcases Nat.lt_or_ge m n with hmn | hmn
    · exact h.before m hmn
    · obtain ⟨j, rfl⟩ := Nat.exists_eq_add_of_le hmn
      have hj := hsofar j (by omega)
      rw [hstands] at hj
      rw [insnTotal_add]
      omega
  obtain ⟨⟨hhalted, hfaulted, hstalled⟩, -⟩ := hfree (n + k) hbefore
  have hran : insnTotal step (insnAt step c n) k < 2 ^ 32 := by
    cases k with
    | zero => exact Nat.two_pow_pos 32
    | succ k =>
      have hlast := (hfree (n + k) fun m hm => hbefore m (by omega)).2
      have hj := hsofar k (Nat.lt_succ_self k)
      rw [hstands] at hj
      rw [insnTotal_succ, ← insnAt_add]
      omega
  set cp₁ : Coproc σ η := { cp with cpu := (insnAt step c (n + k)).1, env := (insnAt step c (n + k)).2 } with hcp₁
  have hexec : coreExec (coreRun step cycles) cp = (insnTotal step (insnAt step c n) k, cp₁) := by
    unfold coreExec coreRun
    rw [hstands] at hsofar
    have hcpu : cp.cpu = (insnAt step c n).1 := congrArg Prod.fst hstands
    have henv : cp.env = (insnAt step c n).2 := congrArg Prod.snd hstands
    rw [hcpu, henv, hloop]
  have hcore : coprocRunCore (ops.stepping step) host cp share =
      (insnTotal step (insnAt step c n) k, coprocChargeRunfor cp₁ (insnTotal step (insnAt step c n) k)) := by
    unfold coprocRunCore
    dsimp only
    rw [← hcycles, hexec]
    dsimp only
    have hkept := coprocChargeRunfor_cpu cp₁ (insnTotal step (insnAt step c n) k)
    rw [coprocNoteStop_free (by rw [hkept]; exact hhalted) (by rw [hkept]; exact hfaulted)
      (by rw [hkept]; exact hstalled)]
  refine ⟨k, congrArg Prod.fst hcore, ?_⟩
  rw [hcore]
  dsimp only
  have htotal := insnTotal_add step c n k
  have hidle₁ : ∀ cp₂ : Coproc σ η, cp₂.dmaBusy = cp.dmaBusy →
      transferred (ops.stepping step) host cp₂ = cp₂ ∧ (cp₂.dmaBusy = true → n + k = 0 ∧ DmaAway host cp₂) := by
    intro cp₂ hsame
    have hbusy : ¬cp₂.dmaBusy = true := by
      rw [hsame, hidle]
      exact Bool.false_ne_true
    exact ⟨if_neg hbusy, fun hb => absurd hb hbusy⟩
  have hmore : insnTotal step (insnAt step c n) k < cp.runfor.toNat ↔ insnTotal step c (n + k) < budget := by
    rw [hrunfor, htotal]
    omega
  have hless : cp.runfor.toNat - insnTotal step (insnAt step c n) k = budget - insnTotal step c (n + k) := by
    rw [hrunfor, htotal]
    omega
  have hcharge := coprocChargeRunfor_spent (show cp₁.runfor ≠ 0 from hpos) hran
  rcases Nat.lt_or_ge (insnTotal step c (n + k)) budget with hlast | hlast
  · obtain ⟨left, hleft, hcharge⟩ := hcharge.1 (hmore.mpr hlast)
    rw [hcharge]
    obtain ⟨hstays, hwaits⟩ := hidle₁ { cp₁ with runfor := left } rfl
    refine ⟨?_, hwaits, hbefore, fun _ => ⟨hleft.trans hless, hrun, hstop⟩,
      fun hle => absurd hlast (Nat.not_lt.mpr hle)⟩
    rw [coreWhenTransferred, hstays]
  · rw [hcharge.2 (Nat.not_lt.mp fun hlt => absurd (hmore.mp hlt) (Nat.not_lt.mpr hlast))]
    obtain ⟨hstays, hwaits⟩ := hidle₁
      { cp₁ with runfor := 0, ctrl := cp₁.ctrl &&& ~~~ctrlRun, stopReason := stopBudget } rfl
    refine ⟨?_, hwaits, hbefore, fun hlt => absurd hlt (Nat.not_lt.mpr hlast), fun _ => ⟨?_, rfl⟩⟩
    · rw [coreWhenTransferred, hstays]
    · show cp.ctrl &&& ~~~ctrlRun &&& ctrlRun = 0
      rw [UInt32.and_assoc, UInt32.not_and_self, UInt32.and_zero]

variable (ops host step) in
def coreShare (cp : Coproc σ η) (cycles : Int) : Nat :=
  (coprocRun (ops.stepping step) host cp cycles).1 - (coprocRunTransfer (ops.stepping step) host cp cycles).1

lemma coprocRun_spent (hfree : RunsFree ops step c budget) (hbudget : 0 < budget)
    (h : Spent ops host step c budget stop n cp) {cycles : Int} (hpos : 0 < cycles) (hint : cycles < 2 ^ 31) :
    ∃ k, coreShare ops host step cp cycles = insnTotal step (insnAt step c n) k ∧
      Spent ops host step c budget stop (n + k) (coprocRun (ops.stepping step) host cp cycles).2 ∧
      (budget ≤ insnTotal step c n → (coprocRun (ops.stepping step) host cp cycles).2 = cp) := by
  have hrun : coprocRun (ops.stepping step) host cp cycles =
      coprocRunRest (ops.stepping step) host (coprocRunTransfer (ops.stepping step) host cp cycles).1
        (coprocRunTransfer (ops.stepping step) host cp cycles).2 cycles := if_neg (not_le.mpr hpos)
  unfold coreShare
  rw [hrun]
  rcases Nat.lt_or_ge (insnTotal step c n) budget with hlt | hover
  · have haway : cp.dmaBusy = true → DmaAway host cp := fun hbusy => (h.waits hbusy).2
    obtain ⟨hwaits, ⟨-, hctrl, hrunfor, hstop⟩, hsame, hidle⟩ :=
      coprocRunTransfer_share (ops.stepping step) host haway cycles
    generalize coprocRunTransfer (ops.stepping step) host cp cycles = share at *
    obtain ⟨used, cp₁⟩ := share
    dsimp only at *
    have h₁ : Spent ops host step c budget stop n cp₁ :=
      ⟨hsame.trans h.stands, fun hbusy => ⟨(h.waits (hwaits hbusy).1).1, (hwaits hbusy).2⟩, h.before,
        fun hlt => by rw [hrunfor, hctrl, hstop]; exact h.going hlt,
        fun hle => by rw [hctrl, hstop]; exact h.ended hle⟩
    have hset := (h₁.going hlt).2.1
    have hnever : ∀ {P : Prop}, budget ≤ insnTotal step c n → P := fun hle => absurd hlt (Nat.not_lt.mpr hle)
    unfold coprocRunRest
    rw [decide_eq_true hset, Bool.true_and, decide_eq_false hset, Bool.false_and, if_neg Bool.false_ne_true]
    split
    next hshort =>
      have hshort := of_decide_eq_true hshort
      have hshare : cycles.toNat - used < 2 ^ 31 := by omega
      obtain ⟨k, hran, hspent⟩ := coprocRunCore_spent hfree h₁ (hidle hshort) hlt hshare
      exact ⟨k, (Nat.add_sub_cancel_left ..).trans hran, hspent, hnever⟩
    next => exact ⟨0, Nat.sub_self used, h₁, hnever⟩
  · -- The first instruction was executed when the transfer was over.
    have hidle : ¬cp.dmaBusy = true := by
      intro hbusy
      rw [(h.waits hbusy).1] at hover
      exact absurd hbudget (Nat.not_lt.mpr hover)
    have htransfer : coprocRunTransfer (ops.stepping step) host cp cycles = (0, cp) := if_neg hidle
    obtain ⟨hclear, hreason⟩ := h.ended hover
    have hrest : coprocRunRest (ops.stepping step) host 0 cp cycles = (0, cp) := by
      unfold coprocRunRest
      rw [hclear, hreason]
      rfl
    rw [htransfer, hrest]
    exact ⟨0, rfl, h, fun _ => rfl⟩

variable (ops host step) in
def runSlices (cp : Coproc σ η) (slices : List Int) : Coproc σ η :=
  slices.foldl (fun cp cycles => (coprocRun (ops.stepping step) host cp cycles).2) cp

variable (ops host step) in
def coreCycles (cp : Coproc σ η) : List Int → Nat
  | [] => 0
  | cycles :: slices =>
    coreShare ops host step cp cycles + coreCycles (coprocRun (ops.stepping step) host cp cycles).2 slices

/-- Timeslices that an `int32_t` holds. -/
def Slices (slices : List Int) : Prop := ∀ cycles ∈ slices, 0 < cycles ∧ cycles < 2 ^ 31

lemma runSlices_spent (hfree : RunsFree ops step c budget) (hbudget : 0 < budget)
    (h : Spent ops host step c budget stop n cp) {slices : List Int} (hslices : Slices slices) :
    ∃ k, coreCycles ops host step cp slices = insnTotal step (insnAt step c n) k ∧
      Spent ops host step c budget stop (n + k) (runSlices ops host step cp slices) ∧
      (budget ≤ insnTotal step c n → runSlices ops host step cp slices = cp) := by
  induction slices generalizing n cp with
  | nil => exact ⟨0, rfl, h, fun _ => rfl⟩
  | cons cycles slices ih =>
    obtain ⟨⟨hpos, hint⟩, hslices⟩ := List.forall_mem_cons.mp hslices
    obtain ⟨k, hshare, hspent, hrest⟩ := coprocRun_spent hfree hbudget h hpos hint
    obtain ⟨k', hcycles, hspent', hrest'⟩ := ih hspent hslices
    refine ⟨k + k', ?_, ?_, fun hover => ?_⟩
    · rw [coreCycles, hshare, hcycles, insnAt_add, insnTotal_add]
    · rw [← Nat.add_assoc]
      exact hspent'
    · have hlater := hrest' (hover.trans (insnTotal_mono step c (Nat.le_add_right n k)))
      exact hlater.trans (hrest hover)

/-- What is to be seen of a card that was given a budget, after some slices: it runs until the core's cycles have
reached the budget, with an instruction that began below it, and is then at rest. -/
structure Honoured (ops : CoreOps σ) (host : HostBus η) (step : Exec σ Nat) (budget : Nat) (start : Coproc σ η)
    (slices : List Int) : Prop where
  cleared : (runSlices ops host step start slices).ctrl &&& ctrlRun = 0 ↔
    budget ≤ coreCycles ops host step start slices
  reason : (runSlices ops host step start slices).stopReason =
    if budget ≤ coreCycles ops host step start slices then stopBudget else start.stopReason
  overrun : ∃ n, coreCycles ops host step start slices = insnTotal step (coreWhenTransferred ops host step start) n ∧
    coreWhenTransferred ops host step (runSlices ops host step start slices) =
      insnAt step (coreWhenTransferred ops host step start) n ∧
    ∀ m < n, insnTotal step (coreWhenTransferred ops host step start) m < budget
  rest : budget ≤ coreCycles ops host step start slices → ∀ later, Slices later →
    runSlices ops host step start (slices ++ later) = runSlices ops host step start slices

/-- **A budget is honoured whatever the slices are.**  The card runs, has a transfer in progress or none, and is given
a budget; the core does not stop of itself while it lasts.  The last clause is that the cycles which it uses in all
are the same however they are divided. -/
theorem runfor_honoured {budget : UInt32} (hbudget : budget ≠ 0) (hrun : cp.ctrl &&& ctrlRun ≠ 0)
    (haway : cp.dmaBusy = true → DmaAway host cp) {start : Coproc σ η}
    (hstart : start = coprocRegWrite (ops.stepping step) host cp 0x4c .size32 budget)
    (hfree : RunsFree ops step (coreWhenTransferred ops host step start) budget.toNat) {slices : List Int}
    (hslices : Slices slices) :
    Honoured ops host step budget.toNat start slices ∧
      ∀ slices', Slices slices' → budget.toNat ≤ coreCycles ops host step start slices →
        budget.toNat ≤ coreCycles ops host step start slices' →
          coreCycles ops host step start slices' = coreCycles ops host step start slices := by
  have hpos : 0 < budget.toNat := Nat.pos_of_ne_zero fun hc => hbudget (UInt32.toNat_inj.mp hc)
  have hspent :
      Spent ops host step (coreWhenTransferred ops host step start) budget.toNat start.stopReason 0 start := by
    rw [hstart]
    exact ⟨rfl, fun hbusy => ⟨rfl, haway hbusy⟩, fun m hm => absurd hm (Nat.not_lt_zero m), fun _ => ⟨rfl, hrun, rfl⟩,
      fun hle => absurd hpos (Nat.not_lt.mpr hle)⟩
  have hwhole : ∀ {slices : List Int}, Slices slices → ∃ n,
      coreCycles ops host step start slices = insnTotal step (coreWhenTransferred ops host step start) n ∧
      Spent ops host step (coreWhenTransferred ops host step start) budget.toNat start.stopReason n
        (runSlices ops host step start slices) := by
    intro slices hslices
    obtain ⟨n, hcycles, h, -⟩ := runSlices_spent hfree hpos hspent hslices
    rw [Nat.zero_add] at h
    exact ⟨n, hcycles, h⟩
  obtain ⟨n, hcycles, h⟩ := hwhole hslices
  refine ⟨⟨?_, ?_, ⟨n, hcycles, h.stands, h.before⟩, fun hover later hlater => ?_⟩,
    fun slices' hslices' hover hover' => ?_⟩
  · rw [hcycles]
    exact h.run_iff
  · rw [hcycles]
    split
    next hle => exact (h.ended hle).2
    next hlt => exact (h.going (Nat.not_le.mp hlt)).2.2
  · rw [hcycles] at hover
    obtain ⟨_, _, _, hrest⟩ := runSlices_spent hfree hpos h hlater
    exact (List.foldl_append ..).trans (hrest hover)
  · -- Both stop behind the first instruction that reaches the budget.
    obtain ⟨n', hcycles', h'⟩ := hwhole hslices'
    rw [hcycles] at hover
    rw [hcycles'] at hover'
    rw [hcycles, hcycles']
    rcases Nat.lt_trichotomy n n' with hlt | rfl | hgt
    · exact absurd (h'.before n hlt) (Nat.not_lt.mpr hover)
    · rfl
    · exact absurd (h.before n' hgt) (Nat.not_lt.mpr hover')

end Budget

def loopCard : Coproc Rv32iState Unit :=
  { rv32iCard.setBus { rv32iCard.bus with ram := rv32iCard.bus.ram.setWord 0 0x6f } with ctrl := ctrlRun }

theorem runfor_honoured_loop :
    Honoured rv32iOps emptyHost rv32iStep 2 (coprocRegWrite rv32iOps emptyHost loopCard 0x4c .size32 2) [1, 64] := by
  have haway : loopCard.dmaBusy = true → DmaAway emptyHost loopCard := fun hbusy => absurd hbusy (by decide)
  refine (runfor_honoured (by decide : (2 : UInt32) ≠ 0) (by decide) haway rfl (fun n hn => ?_) ?_).1
  · match n with
    | 0 => exact ⟨⟨rfl, rfl, rfl⟩, by decide⟩
    | 1 => exact ⟨⟨rfl, rfl, rfl⟩, by decide⟩
    | 2 => exact ⟨⟨rfl, rfl, rfl⟩, by decide⟩
    | n + 3 => exact absurd (hn 2 (by omega)) (by decide)
  · exact List.forall_mem_cons.mpr ⟨by decide, List.forall_mem_singleton.mpr (by decide)⟩

end RpcEmu
