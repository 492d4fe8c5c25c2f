import RpcEmu.Cpu.Rv32i

/-!
# An RV32I instruction that faults or stalls

A fetch is four accesses through the hook and a load or a store is up to four more, and any of them can
fail.  `Replied` says what the replies leave in the core, whatever they are: **two flags, and the fault
record**.  Everything else is done by the instruction itself, so a step is followed by asking what it
was (`rv32iEffect`) of the word that came back, a zero for each byte that did not.

**The gap.**  The end of an instruction looks at the stall and not at the fault, so a bus error on a
load lets the instruction complete; and ECALL and a refused opcode look at neither.  `cleanStop_iff`
says exactly which replies leave a clean stop.
-/

namespace RpcEmu

open Effects

/-! ## What the replies leave -/

/-- What some accesses leave in the core: the flags, and the fault record.  Without a hook there is
nothing to leave. -/
structure Rv32iState.Replied (s : Rv32iState) (tr : List CpuAsked) (t : Rv32iState) : Prop where
  state : t = { s with stalled := s.stalled || anyStall tr, faulted := s.faulted || anyBusError tr,
                       faultCause := t.faultCause, faultAddr := t.faultAddr }
  unhooked : s.hooked = false → anyStall tr = false ∧ anyBusError tr = false

namespace Rv32iState.Replied

variable {s t u : Rv32iState} {tr tr' : List CpuAsked}

lemma refl (s : Rv32iState) : s.Replied [] s where
  state := by simp
  unhooked _ := ⟨rfl, rfl⟩

lemma trans (h : s.Replied tr t) (h' : t.Replied tr' u) : s.Replied (tr ++ tr') u where
  state := by
    rw [h'.state, h.state]
    simp only [anyStall_append, anyBusError_append, Bool.or_assoc]
  unhooked hs := by
    have ht : t.hooked = false := by
      rw [h.state]
      exact hs
    simp only [anyStall_append, anyBusError_append, h.unhooked hs, h'.unhooked ht, Bool.or_self,
      and_self]

lemma composes : Composes Rv32iState.Replied where
  refl := refl
  trans := trans

end Rv32iState.Replied

section One

variable {s : Rv32iState} {op : CpuOp} {r : op.Reply}

lemma replied_done (hs : op.stalls r = false) (he : op.errs r = false) :
    s.Replied [⟨op, r⟩] s where
  state := by simp [anyStall, anyBusError, hs, he]
  unhooked _ := by simp [anyStall, anyBusError, hs, he]

lemma replied_stall (hh : s.hooked = true) (hs : op.stalls r = true) (he : op.errs r = false) :
    s.Replied [⟨op, r⟩] { s with stalled := true } where
  state := by simp [anyStall, anyBusError, hs, he]
  unhooked h := absurd (h.symm.trans hh) (by decide)

lemma replied_fault (hh : s.hooked = true) (hs : op.stalls r = false) (he : op.errs r = true)
    (cause : Rv32iFault) (addr : UInt32) : s.Replied [⟨op, r⟩] (s.fault cause addr) where
  state := by simp [anyStall, anyBusError, hs, he, Rv32iState.fault]
  unhooked h := absurd (h.symm.trans hh) (by decide)

end One

lemma replied_load8 (addr : UInt32) : Respects Rv32iState.Replied (load8 addr) := by
  intro s
  rw [load8, StateT.run_bind, StateT.run_get, pure_bind]
  by_cases hh : s.hooked = true
  · rw [if_pos hh]
    rintro ⟨res, v⟩
    cases res with
    | ok => exact replied_done rfl rfl
    | stall => exact replied_stall hh rfl rfl
    | busError => exact replied_fault hh rfl rfl .loadAccess addr
  · rw [if_neg hh]
    exact fun r => replied_done rfl rfl

lemma replied_store8 (addr : UInt32) (val : UInt8) :
    Respects Rv32iState.Replied (store8 addr val) := by
  intro s
  rw [store8, StateT.run_bind, StateT.run_get, pure_bind]
  by_cases hh : s.hooked = true
  · rw [if_pos hh]
    intro res
    cases res with
    | ok => exact replied_done rfl rfl
    | stall => exact replied_stall hh rfl rfl
    | busError => exact replied_fault hh rfl rfl .storeAccess addr
  · rw [if_neg hh]
    exact fun r => replied_done rfl rfl

lemma replied_loadWidth (addr : UInt32) (width : Rv32iWidth) :
    Respects Rv32iState.Replied (loadWidth addr width) := by
  have hR := Rv32iState.Replied.composes
  have hpure : ∀ v : UInt32, Respects Rv32iState.Replied (pure v) := Respects.of_pure hR
  cases width with
  | byte => exact Respects.of_bind hR (replied_load8 _) fun _ => hpure _
  | half =>
    exact Respects.of_bind hR (replied_load8 _) fun _ =>
      Respects.of_bind hR (replied_load8 _) fun _ => hpure _
  | word =>
    exact Respects.of_bind hR (replied_load8 _) fun _ =>
      Respects.of_bind hR (replied_load8 _) fun _ =>
        Respects.of_bind hR (replied_load8 _) fun _ =>
          Respects.of_bind hR (replied_load8 _) fun _ => hpure _

lemma replied_storeWidth (addr val : UInt32) (width : Rv32iWidth) :
    Respects Rv32iState.Replied (storeWidth addr val width) := by
  have hR := Rv32iState.Replied.composes
  cases width with
  | byte => exact replied_store8 _ _
  | half => exact Respects.of_bind hR (replied_store8 _ _) fun _ => replied_store8 _ _
  | word =>
    exact Respects.of_bind hR (replied_store8 _ _) fun _ =>
      Respects.of_bind hR (replied_store8 _ _) fun _ =>
        Respects.of_bind hR (replied_store8 _ _) fun _ => replied_store8 _ _

/-! ## The word fetched -/

def fetchedWord (tr : List CpuAsked) : UInt32 :=
  match bytesRead tr with
  | b0 :: b1 :: b2 :: b3 :: _ =>
    b0.toUInt32 ||| (b1.toUInt32 <<< 8) ||| (b2.toUInt32 <<< 16) ||| (b3.toUInt32 <<< 24)
  | _ => 0

lemma load8_bytes (addr : UInt32) (s : Rv32iState) :
    ((load8 addr).run s).Always fun tr out =>
      s.Replied tr out.2 ∧ (s.hooked = true → bytesRead tr = [out.1]) ∧ writesDone tr = [] := by
  refine Prog.Always.and (replied_load8 addr s) ?_
  rw [load8, StateT.run_bind, StateT.run_get, pure_bind]
  by_cases hh : s.hooked = true
  · rw [if_pos hh]
    rintro ⟨res, v⟩
    cases res <;> exact ⟨fun _ => rfl, rfl⟩
  · rw [if_neg hh]
    exact fun r => ⟨fun h => absurd h hh, rfl⟩

lemma Rv32iState.Replied.hooked {s t : Rv32iState} {tr : List CpuAsked} (h : s.Replied tr t) :
    t.hooked = s.hooked := by
  rw [h.state]

/-- **The fetch**: the word is that of the bytes that came back, whatever is asked after it. -/
lemma fetch_word (addr : UInt32) (s : Rv32iState) :
    ((loadWidth addr .word).run s).Always fun tr out =>
      s.Replied tr out.2 ∧ writesDone tr = [] ∧
        (s.hooked = true → ∀ tr', fetchedWord (tr ++ tr') = out.1) := by
  rw [loadWidth, StateT.run_bind]
  refine Prog.Always.bind (load8_bytes addr s) fun tr0 out0 ⟨h0, hb0, hw0⟩ => ?_
  rw [StateT.run_bind]
  refine Prog.Always.bind (load8_bytes _ out0.2) fun tr1 out1 ⟨h1, hb1, hw1⟩ => ?_
  rw [StateT.run_bind]
  refine Prog.Always.bind (load8_bytes _ out1.2) fun tr2 out2 ⟨h2, hb2, hw2⟩ => ?_
  rw [StateT.run_bind]
  refine Prog.Always.bind (load8_bytes _ out2.2) fun tr3 out3 ⟨h3, hb3, hw3⟩ => ?_
  refine ⟨?_, ?_, fun hh tr' => ?_⟩
  · rw [List.append_nil]
    exact h0.trans (h1.trans (h2.trans h3))
  · simp only [writesDone_append, hw0, hw1, hw2, hw3]
    rfl
  · have hh1 := h0.hooked.trans hh
    have hh2 := h1.hooked.trans hh1
    rw [fetchedWord]
    simp only [bytesRead_append, hb0 hh, hb1 hh1, hb2 hh2, hb3 (h2.hooked.trans hh2)]
    rfl

/-! ## What an instruction does with it -/

/-- Does the core refuse what an instruction asks for?  An opcode it does not have, or an address
that is misaligned or not there. -/
def Rv32iEffect.refused (s : Rv32iState) : Rv32iEffect → Bool
  | .retire _ _ _ => false
  | .load width _ _ addr =>
    decide (addr &&& (width.bytes - 1) ≠ 0) || !inRange s addr width.bytes
  | .store width addr _ => decide (addr &&& (width.bytes - 1) ≠ 0) || !inRange s addr width.bytes
  | .halt _ => false
  | .illegal => true

def Rv32iEffect.halts : Rv32iEffect → Bool
  | .halt _ => true
  | _ => false

/-- How an instruction ends that started from `s` and made the accesses `tr`. -/
inductive Rv32iEffect.Ends (s : Rv32iState) (eff : Rv32iEffect) (tr : List CpuAsked) :
    Nat × Rv32iState → Prop
  | refused (h : eff.refused s = true) (htr : tr = []) (cause : Rv32iFault) (addr : UInt32) :
      Ends s eff tr (0, s.fault cause addr)
  | halted (h : eff.refused s = false) (hh : eff.halts = true) (htr : tr = []) (t : Rv32iState)
      (ht : t.halted = true) (hf : t.faulted = s.faulted) : Ends s eff tr (1, t)
  | abandoned (h : eff.refused s = false) (hh : eff.halts = false) (t : Rv32iState)
      (ht : s.Replied tr t) (hst : t.stalled = true) : Ends s eff tr (0, rv32iAbandon t)
  | completed (h : eff.refused s = false) (hh : eff.halts = false) (t u : Rv32iState)
      (ht : s.Replied tr t) (hst : t.stalled = false) (hu : u.faulted = t.faulted) :
      Ends s eff tr (1, u)

lemma Rv32iEffect.Ends.unhooked {s : Rv32iState} {eff : Rv32iEffect} {tr : List CpuAsked}
    {out : Nat × Rv32iState} (h : eff.Ends s tr out) (hh : s.hooked = false) :
    anyStall tr = false ∧ anyBusError tr = false := by
  cases h with
  | refused h htr cause addr => rw [htr]; exact ⟨rfl, rfl⟩
  | halted h hh htr t ht hf => rw [htr]; exact ⟨rfl, rfl⟩
  | abandoned h hh' t ht hst => exact ht.unhooked hh
  | completed h hh' t u ht hst hu => exact ht.unhooked hh

section Ends

variable {s : Rv32iState} {eff : Rv32iEffect} (h : eff.refused s = false) (hh : eff.halts = false)
include h hh

lemma finish_ends {tr : List CpuAsked} {t : Rv32iState} (ht : s.Replied tr t) (x : Fin 32 → UInt32)
    (next : UInt32) :
    ((rv32iFinish next).run { t with x := x }).Always fun tr' out =>
      eff.Ends s (tr ++ tr') out := by
  rw [rv32iFinish, StateT.run_bind, StateT.run_get, pure_bind]
  have ht' : s.Replied (tr ++ []) t := by
    rw [List.append_nil]
    exact ht
  by_cases hst : t.stalled = true
  · rw [if_pos hst]
    exact .abandoned h hh t ht' hst
  · rw [if_neg hst]
    exact .completed h hh t _ ht' (eq_false_of_ne_true hst) rfl

lemma setReg_ends {tr : List CpuAsked} {t : Rv32iState} (ht : s.Replied tr t) (rd : Fin 32)
    (val next : UInt32) :
    ((rv32iFinish next).run (t.setReg rd val)).Always fun tr' out => eff.Ends s (tr ++ tr') out := by
  rw [Rv32iState.setReg]
  split
  · exact finish_ends h hh ht t.x next
  · exact finish_ends h hh ht _ next

end Ends

/-- **What an instruction asks for**, to its end. -/
lemma perform_ends (insn : UInt32) (eff : Rv32iEffect) (s : Rv32iState) :
    ((rv32iPerform insn eff).run s).Always fun tr out => eff.Ends s tr out := by
  cases eff with
  | retire rd val next =>
    rw [rv32iPerform, StateT.run_bind, StateT.run_modify, pure_bind]
    exact setReg_ends rfl rfl (Rv32iState.Replied.refl s) rd val next
  | load width signed rd addr =>
    rw [rv32iPerform, StateT.run_bind, StateT.run_get, pure_bind]
    split
    · rename_i hm
      exact .refused (by simp [Rv32iEffect.refused, hm]) rfl _ _
    · rename_i hm
      split
      · rename_i hr
        exact .refused (by simp [Rv32iEffect.refused, hm, hr]) rfl _ _
      · rename_i hr
        have hok : (Rv32iEffect.load width signed rd addr).refused s = false := by
          simp [Rv32iEffect.refused, hm, hr]
        rw [StateT.run_bind]
        refine Prog.Always.bind (replied_loadWidth addr width s) fun tr out ht => ?_
        rw [StateT.run_bind, StateT.run_modify, pure_bind]
        exact setReg_ends hok rfl ht rd _ _
  | store width addr val =>
    rw [rv32iPerform, StateT.run_bind, StateT.run_get, pure_bind]
    split
    · rename_i hm
      exact .refused (by simp [Rv32iEffect.refused, hm]) rfl _ _
    · rename_i hm
      split
      · rename_i hr
        exact .refused (by simp [Rv32iEffect.refused, hm, hr]) rfl _ _
      · rename_i hr
        have hok : (Rv32iEffect.store width addr val).refused s = false := by
          simp [Rv32iEffect.refused, hm, hr]
        rw [StateT.run_bind]
        refine Prog.Always.bind (replied_storeWidth addr val width s) fun tr out ht => ?_
        exact finish_ends hok rfl ht out.2.x _
  | halt reason => exact .halted rfl rfl rfl _ rfl rfl
  | illegal => exact .refused rfl rfl _ _

/-! ## The whole step -/

/-- **A clean stop**: a core that faulted did nothing else, and neither did one that has to wait. -/
structure CleanStop (s : Rv32iState) (tr : List CpuAsked) (out : Nat × Rv32iState) : Prop where
  fault : out.2.faulted = true →
    out.1 = 0 ∧ out.2.x = s.x ∧ out.2.pc = s.pc ∧ out.2.cycles = s.cycles ∧ writesDone tr = []
  stall : anyStall tr = true → anyBusError tr = false →
    out.2.x = s.x ∧ out.2.pc = s.pc ∧ out.2.cycles = s.cycles ∧ out.2.halted = s.halted ∧
      out.2.faulted = s.faulted

/-- What a stall would restore is what is there. -/
def Rv32iState.Restorable (s : Rv32iState) : Prop :=
  s.canStall = true ∨ (s.savedX = s.x ∧ s.savedPc = s.pc)

lemma Rv32iState.restorable_iff {s : Rv32iState} :
    s.Restorable ↔ s.save.savedX = s.x ∧ s.save.savedPc = s.pc := by
  rw [Rv32iState.Restorable, Rv32iState.save]
  cases s.canStall with
  | true => simp
  | false => simp

/-- **The replies that leave a clean stop.**  A bus error must meet an instruction the core refuses,
or one that a stall abandons before it has stored anything; a stall alone must meet neither a refused
instruction nor ECALL or EBREAK. -/
structure StopsCleanly (s : Rv32iState) (tr : List CpuAsked) : Prop where
  fault : anyBusError tr = true →
    (rv32iEffect s (fetchedWord tr)).refused s = true ∨
      (anyStall tr = true ∧ (rv32iEffect s (fetchedWord tr)).halts = false ∧ writesDone tr = [] ∧
        s.Restorable)
  stall : anyStall tr = true → anyBusError tr = false →
    (rv32iEffect s (fetchedWord tr)).refused s = false ∧
      (rv32iEffect s (fetchedWord tr)).halts = false ∧ s.Restorable

section Step

variable {s t : Rv32iState} {trf tr : List CpuAsked} (hf : s.save.Replied trf t)

include hf

lemma fetched_same : t.x = s.x ∧ t.pc = s.pc ∧ t.cycles = s.cycles ∧ t.halted = s.halted ∧
    t.savedX = s.save.savedX ∧ t.savedPc = s.save.savedPc := by
  rw [hf.state]
  have hs : s.save.x = s.x ∧ s.save.pc = s.pc ∧ s.save.cycles = s.cycles ∧
      s.save.halted = s.halted := by
    rw [Rv32iState.save]
    split <;> exact ⟨rfl, rfl, rfl, rfl⟩
  exact ⟨hs.1, hs.2.1, hs.2.2.1, hs.2.2.2, rfl, rfl⟩

lemma fetched_flags (hst : s.stalled = false) (hfl : s.faulted = false) :
    t.stalled = anyStall trf ∧ t.faulted = anyBusError trf := by
  have hs : s.save.stalled = false ∧ s.save.faulted = false := by
    rw [Rv32iState.save]
    split <;> exact ⟨hst, hfl⟩
  constructor
  · rw [hf.state, hs.1, Bool.false_or]
  · rw [hf.state, hs.2, Bool.false_or]

lemma fetched_effect (insn : UInt32) : rv32iEffect t insn = rv32iEffect s insn := by
  rw [hf.state, Rv32iState.save]
  split <;> rfl

lemma fetched_refused (eff : Rv32iEffect) : eff.refused t = eff.refused s := by
  rw [hf.state, Rv32iState.save]
  cases eff <;> split <;> rfl

variable (hst : s.stalled = false) (hfl : s.faulted = false) (hw : writesDone trf = [])
  {eff : Rv32iEffect} {out : Nat × Rv32iState} (he : eff.Ends t tr out)
include hst hfl hw he

/-- **How a step ends**, read off its replies and what the word it fetched asks for. -/
lemma ends_iff (hhalt : s.halted = false)
    (hword : anyStall (trf ++ tr) = true ∨ anyBusError (trf ++ tr) = true →
      rv32iEffect s (fetchedWord (trf ++ tr)) = eff) :
    CleanStop s (trf ++ tr) out ↔ StopsCleanly s (trf ++ tr) := by
  obtain ⟨hx, hpc, hcyc, hth, hsx, hspc⟩ := fetched_same hf
  obtain ⟨hts, htf⟩ := fetched_flags hf hst hfl
  have href := fetched_refused hf eff
  cases he with
  | refused h htr cause addr =>
    subst htr
    have hw' : writesDone (trf ++ []) = [] := by
      rw [List.append_nil]
      exact hw
    constructor
    · intro hc
      refine ⟨fun hE => .inl ?_, fun hS hE => ?_⟩
      · rw [hword (.inr hE), ← href]
        exact h
      · have hfault : true = s.faulted := (hc.stall hS hE).2.2.2.2
        exact absurd (hfault.trans hfl) (by decide)
    · intro hs
      refine ⟨fun _ => ⟨rfl, hx, hpc, hcyc, hw'⟩, fun hS hE => ?_⟩
      have hr := (hs.stall hS hE).1
      rw [hword (.inl hS), ← href, h] at hr
      exact absurd hr (by decide)
  | halted h hh htr u hu huf =>
    subst htr
    have hE' : u.faulted = anyBusError (trf ++ []) := by
      rw [List.append_nil, huf, htf]
    constructor
    · intro hc
      refine ⟨fun hE => ?_, fun hS hE => ?_⟩
      · exact absurd (hc.fault (hE'.trans hE)).1 Nat.one_ne_zero
      · have hhalted : u.halted = s.halted := (hc.stall hS hE).2.2.2.1
        exact absurd (hu.symm.trans (hhalted.trans hhalt)) (by decide)
    · intro hs
      refine ⟨fun hfault => ?_, fun hS hE => ?_⟩
      · have hE := hE'.symm.trans hfault
        rcases hs.fault hE with hr | ⟨-, hn, -⟩
        · rw [hword (.inr hE), ← href, h] at hr
          exact absurd hr (by decide)
        · rw [hword (.inr hE), hh] at hn
          exact absurd hn (by decide)
      · have hn := (hs.stall hS hE).2.1
        rw [hword (.inl hS), hh] at hn
        exact absurd hn (by decide)
  | abandoned h hh u hu hus =>
    have hS : anyStall (trf ++ tr) = true := by
      rw [anyStall_append, ← hts, ← hus, hu.state]
    have hE' : (rv32iAbandon u).faulted = anyBusError (trf ++ tr) := by
      show u.faulted = _
      rw [anyBusError_append, ← htf, hu.state]
    have hux : (rv32iAbandon u).x = s.save.savedX := by
      show u.savedX = _
      rw [hu.state]
      exact hsx
    have hupc : (rv32iAbandon u).pc = s.save.savedPc := by
      show u.savedPc = _
      rw [hu.state]
      exact hspc
    have hrest : s.Restorable ↔ (rv32iAbandon u).x = s.x ∧ (rv32iAbandon u).pc = s.pc := by
      rw [hux, hupc]
      exact Rv32iState.restorable_iff
    have hucyc : (rv32iAbandon u).cycles = s.cycles ∧ (rv32iAbandon u).halted = s.halted := by
      refine ⟨Eq.trans ?_ hcyc, Eq.trans ?_ hth⟩
      · show u.cycles = _
        rw [hu.state]
      · show u.halted = _
        rw [hu.state]
    constructor
    · intro hc
      refine ⟨fun hE => .inr ?_, fun _ hE => ?_⟩
      · obtain ⟨-, h1, h2, -, hnone⟩ := hc.fault (hE'.trans hE)
        rw [hword (.inr hE)]
        exact ⟨hS, hh, hnone, hrest.mpr ⟨h1, h2⟩⟩
      · obtain ⟨h1, h2, -⟩ := hc.stall hS hE
        rw [hword (.inl hS), ← href]
        exact ⟨h, hh, hrest.mpr ⟨h1, h2⟩⟩
    · intro hs
      refine ⟨fun hfault => ?_, fun _ hE => ?_⟩
      · have hE := hE'.symm.trans hfault
        rcases hs.fault hE with hr | ⟨-, -, hnone, hrst⟩
        · rw [hword (.inr hE), ← href, h] at hr
          exact absurd hr (by decide)
        · obtain ⟨h1, h2⟩ := hrest.mp hrst
          exact ⟨rfl, h1, h2, hucyc.1, hnone⟩
      · obtain ⟨h1, h2⟩ := hrest.mp (hs.stall hS hE).2.2
        exact ⟨h1, h2, hucyc.1, hucyc.2, (hE'.trans hE).trans hfl.symm⟩
  | completed h hh u v hu hus hv =>
    have hS : anyStall (trf ++ tr) = false := by
      rw [anyStall_append, ← hts, ← hus, hu.state]
    have hE' : v.faulted = anyBusError (trf ++ tr) := by
      rw [hv, anyBusError_append, ← htf, hu.state]
    constructor
    · intro hc
      refine ⟨fun hE => ?_, fun hS' => ?_⟩
      · exact absurd (hc.fault (hE'.trans hE)).1 Nat.one_ne_zero
      · exact absurd (hS.symm.trans hS') (by decide)
    · intro hs
      refine ⟨fun hfault => ?_, fun hS' => ?_⟩
      · have hE := hE'.symm.trans hfault
        rcases hs.fault hE with hr | ⟨hS', -⟩
        · rw [hword (.inr hE), ← href, h] at hr
          exact absurd hr (by decide)
        · exact absurd (hS.symm.trans hS') (by decide)
      · exact absurd (hS.symm.trans hS') (by decide)

end Step

lemma cleanStop_before_fetch {s t : Rv32iState} (h : t.x = s.x ∧ t.pc = s.pc ∧ t.cycles = s.cycles) :
    CleanStop s [] (0, t) ↔ StopsCleanly s [] := by
  constructor
  · exact fun _ => ⟨fun hE => Bool.noConfusion hE, fun hS => Bool.noConfusion hS⟩
  · exact fun _ => ⟨fun _ => ⟨rfl, h.1, h.2.1, h.2.2, rfl⟩, fun hS => Bool.noConfusion hS⟩

/-- **Exactly which replies leave a clean stop**, for every state of the core. -/
lemma step_cleanStop (s : Rv32iState) :
    (rv32iStep.run s).Always fun tr out => (CleanStop s tr out ↔ StopsCleanly s tr) := by
  have hsave : s.save.x = s.x ∧ s.save.pc = s.pc ∧ s.save.cycles = s.cycles := by
    rw [Rv32iState.save]
    split <;> exact ⟨rfl, rfl, rfl⟩
  rw [rv32iStep, StateT.run_bind, StateT.run_get, pure_bind]
  by_cases hrun : (s.halted || s.faulted || s.stalled) = true
  · rw [if_pos hrun]
    exact cleanStop_before_fetch ⟨rfl, rfl, rfl⟩
  · rw [if_neg hrun, StateT.run_bind, StateT.run_modify, pure_bind]
    obtain ⟨⟨hhalt, hfl⟩, hst⟩ : (s.halted = false ∧ s.faulted = false) ∧ s.stalled = false := by
      simpa using hrun
    split
    · exact cleanStop_before_fetch hsave
    · split
      · exact cleanStop_before_fetch hsave
      · rw [StateT.run_bind]
        refine Prog.Always.bind (fetch_word s.pc s.save) fun trf out ⟨hf, hw, hword⟩ => ?_
        show Prog.Always _ (StateT.run (get >>= _) _)
        rw [StateT.run_bind, StateT.run_get, pure_bind]
        refine Prog.Always.mono (fun tr out' he => ?_) (perform_ends _ _ _)
        rw [fetched_effect hf] at he
        refine ends_iff hf hst hfl hw he hhalt fun hany => ?_
        have hh : s.save.hooked = true := by
          by_contra hn
          have hn' := eq_false_of_ne_true hn
          obtain ⟨h1, h2⟩ := hf.unhooked hn'
          obtain ⟨h3, h4⟩ := he.unhooked (hf.hooked.trans hn')
          rw [anyStall_append, anyBusError_append, h1, h2, h3, h4] at hany
          exact absurd hany (by decide)
        rw [hword hh tr]

/-- **Exactly when a faulting or stalling instruction changes nothing else**, for every state of the
core and every hook. -/
theorem cleanStop_iff {τ : Type} (hook : Handler CpuOp CpuOp.Reply τ) (e : τ) (s : Rv32iState) :
    CleanStop s ((rv32iStep.run s).trace hook e) ((rv32iStep.run s).run hook e).1 ↔
      StopsCleanly s ((rv32iStep.run s).trace hook e) :=
  (step_cleanStop s).of_run hook e

/-- A card on which addresses 0 to 0xf are not mapped, with `lw x1, 0(x0)` at 0x100. -/
def unmappedCard : CoprocEnv where
  bus :=
    let zero : Bytes.Block := fun _ => 0
    let ctl := ((zero.setWord 0 0).setWord 4 0x10).setWord 8 5
    { coproBusInit (zero.setWord 0x100 0x00002083) true 0x1000 ctl true 0x1000 with mapCount := 1 }
  mboxTx := 0
  mboxRx := 0
  ports := fun _ => 0

/-- **The gap.**  A load from an address that is not there completes: the core has faulted, and gone on
to the next instruction. -/
theorem unmapped_load_completes :
    ¬ ∀ (τ : Type) (hook : Handler CpuOp CpuOp.Reply τ) (e : τ) (s : Rv32iState),
      CleanStop s ((rv32iStep.run s).trace hook e) ((rv32iStep.run s).run hook e).1 := by
  intro h
  have hc := h CoprocEnv coprocHandler unmappedCard
    { rv32iSetMemHook (rv32iInit true 0x1000) false with pc := 0x100 }
  exact absurd (hc.fault (by decide)).1 (by decide)

end RpcEmu
