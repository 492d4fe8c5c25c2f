import RpcEmu.Cpu.Rv32iWord

/-!
# The RV32IM core is the architecture's

One `rv32i_step` of a core with no hook, from an address that has an instruction, against one step of the
architecture.  What the core asks of a flat RAM is answered by `flatRam`; `Rv32iEffect.onHart` says what an
effect comes to in the architecture's terms (`outcome_eq`), and opcode by opcode that is what `RiscV.step` says,
with two exceptions.

* A shift to the left by an immediate with bit 30 set is no instruction, and the core has it.
* A jump to where no instruction can be is the fault of the jump, and the core makes it, to fault on the next
  step.

`step_is_architecture_iff`: there are no others.
-/

namespace RpcEmu

open RiscV Effects

/-! ## A core and its RAM -/

def flatRam : Handler CpuOp CpuOp.Reply (UInt32 → UInt8)
  | .memRead _, ram => ((.ok, 0), ram)
  | .memWrite _ _ _, ram => (.ok, ram)
  | .ramRead addr, ram => (ram addr, ram)
  | .ramWrite addr val, ram => ((), Function.update ram addr val)
  | .ioIn _, ram => (0, ram)
  | .ioOut _ _, ram => ((), ram)

def hartOf (s : Rv32iState) (ram : UInt32 → UInt8) : Hart where
  x r := (s.x r).toBitVec
  pc := s.pc.toBitVec
  mem addr := (ram (UInt32.ofBitVec addr)).toBitVec

def Rv32iState.event (s : Rv32iState) : Event :=
  if s.faulted then .trap s.faultCause.toBitVec s.faultAddr.toBitVec
  else if s.halted then if s.haltReason = 1 then .ecall else .ebreak
  else .retired

def rv32iOutcome (s : Rv32iState) (ram : UInt32 → UInt8) : Hart × Event :=
  let out := (rv32iStep.run s).run flatRam ram
  (hartOf out.1.2 out.2, out.1.2.event)

/-- A hart about to take an instruction, with nothing in its way. -/
structure Rv32iState.Ready (s : Rv32iState) : Prop where
  hooked : s.hooked = false
  halted : s.halted = false
  faulted : s.faulted = false
  stalled : s.stalled = false
  x0 : s.x 0 = 0
  aligned : s.pc &&& 3 = 0
  inRange : inRange s s.pc 4 = true

section Memory

variable {s : Rv32iState} (ram : UInt32 → UInt8)

lemma run_load8 (hh : s.hooked = false) (addr : UInt32) :
    ((load8 addr).run s).run flatRam ram = ((ram addr, s), ram) := by
  rw [load8, StateT.run_bind, StateT.run_get, pure_bind, if_neg (by simp [hh])]
  rfl

def loaded (ram : UInt32 → UInt8) (addr : UInt32) : Rv32iWidth → UInt32
  | .byte => (ram addr).toUInt32
  | .half => (ram addr).toUInt32 ||| ((ram (addr + 1)).toUInt32 <<< 8)
  | .word =>
    (ram addr).toUInt32 ||| ((ram (addr + 1)).toUInt32 <<< 8) ||| ((ram (addr + 2)).toUInt32 <<< 16) |||
      ((ram (addr + 3)).toUInt32 <<< 24)

lemma run_loadWidth (hh : s.hooked = false) (addr : UInt32) (width : Rv32iWidth) :
    ((loadWidth addr width).run s).run flatRam ram = ((loaded ram addr width, s), ram) := by
  cases width <;>
    simp only [loadWidth, StateT.run_bind, Prog.run_bind, run_load8 ram hh, StateT.run_pure, loaded] <;> rfl

lemma run_store8 (hh : s.hooked = false) (addr : UInt32) (val : UInt8) :
    ((store8 addr val).run s).run flatRam ram = (((), s), Function.update ram addr val) := by
  rw [store8, StateT.run_bind, StateT.run_get, pure_bind, if_neg (by simp [hh])]
  rfl

def storedRam (ram : UInt32 → UInt8) (addr val : UInt32) : Rv32iWidth → UInt32 → UInt8
  | .byte => Function.update ram addr val.toUInt8
  | .half => Function.update (Function.update ram addr val.toUInt8) (addr + 1) (val >>> 8).toUInt8
  | .word =>
    Function.update (Function.update (Function.update (Function.update ram addr val.toUInt8) (addr + 1)
      (val >>> 8).toUInt8) (addr + 2) (val >>> 16).toUInt8) (addr + 3) (val >>> 24).toUInt8

lemma run_storeWidth (hh : s.hooked = false) (addr val : UInt32) (width : Rv32iWidth) :
    ((storeWidth addr val width).run s).run flatRam ram = (((), s), storedRam ram addr val width) := by
  cases width <;>
    simp only [storeWidth, StateT.run_bind, Prog.run_bind, run_store8 _ hh, storedRam]

end Memory

/-! ## What an effect comes to -/

def Rv32iWidth.arch : Rv32iWidth → Width
  | .byte => .byte
  | .half => .half
  | .word => .word

def Rv32iEffect.onHart (size : Nat) (h : Hart) (w : Word) : Rv32iEffect → Hart × Event
  | .retire rd val next => RiscV.retire (h.set rd val.toBitVec) next.toBitVec
  | .load width signed rd addr =>
    if ¬RiscV.aligned addr.toBitVec width.arch then raise h .loadMisaligned addr.toBitVec
    else if ¬inside size addr.toBitVec width.arch then raise h .loadAccess addr.toBitVec
    else RiscV.retire (h.set rd (Hart.extend width.arch signed (h.read addr.toBitVec width.arch))) (h.pc + 4)
  | .store width addr val =>
    if ¬RiscV.aligned addr.toBitVec width.arch then raise h .storeMisaligned addr.toBitVec
    else if ¬inside size addr.toBitVec width.arch then raise h .storeAccess addr.toBitVec
    else RiscV.retire (h.store addr.toBitVec val.toBitVec width.arch) (h.pc + 4)
  | .halt reason => ({ h with pc := h.pc + 4 }, if reason = 1 then .ecall else .ebreak)
  | .illegal => raise h .illegal w

section Performed

variable {s : Rv32iState} (ram : UInt32 → UInt8)

omit s ram in
lemma aligned_iff (addr : UInt32) (width : Rv32iWidth) :
    addr &&& (width.bytes - 1) = 0 ↔ RiscV.aligned addr.toBitVec width.arch := by
  have hmod {k : Nat} {m : UInt32} (hm : m.toNat = 2 ^ k - 1) : addr &&& m = 0 ↔ addr.toNat % 2 ^ k = 0 := by
    rw [← UInt32.toNat_inj, UInt32.toNat_and, hm, Nat.and_two_pow_sub_one_eq_mod]
    rfl
  cases width with
  | byte => exact hmod (k := 0) rfl
  | half => exact hmod (k := 1) rfl
  | word => exact hmod (k := 2) rfl

omit ram in
lemma inside_iff (hpresent : s.ramPresent = true) (hh : s.hooked = false) (addr : UInt32) (width : Rv32iWidth) :
    inRange s addr width.bytes = true ↔ inside s.ramSize.toNat addr.toBitVec width.arch := by
  have hbytes : width.bytes.toNat = width.arch.bytes := by cases width <;> rfl
  have hsub (h : width.bytes ≤ s.ramSize) : (s.ramSize - width.bytes).toNat = s.ramSize.toNat - width.bytes.toNat :=
    UInt32.toNat_sub_of_le _ _ h
  simp only [inRange, hpresent, hh, Bool.false_or, Bool.true_and, Bool.and_eq_true, decide_eq_true_eq, inside,
    UInt32.toNat_toBitVec, ← hbytes]
  constructor
  · rintro ⟨hle, haddr⟩
    have hle' := UInt32.le_iff_toNat_le.mp hle
    have haddr' := UInt32.le_iff_toNat_le.mp haddr
    rw [hsub hle] at haddr'
    omega
  · intro h
    have hle : width.bytes ≤ s.ramSize := UInt32.le_iff_toNat_le.mpr (by omega)
    refine ⟨hle, UInt32.le_iff_toNat_le.mpr ?_⟩
    rw [hsub hle]
    omega

lemma loaded_toBitVec (addr : UInt32) (width : Rv32iWidth) :
    (loaded ram addr width).toBitVec = (hartOf s ram).read addr.toBitVec width.arch := by
  cases width with
  | byte => rfl
  | half =>
    simp only [loaded, Hart.read, hartOf, Rv32iWidth.arch]
    change _ = ((ram (addr + 1)).toBitVec ++ (ram addr).toBitVec).setWidth 32
    generalize ram addr = b0
    generalize ram (addr + 1) = b1
    apply BitVec.eq_of_getLsbD_eq
    intro i hi
    simp only [BitVec.getLsbD_setWidth, BitVec.getLsbD_append]
    interval_cases i <;> simp
  | word =>
    simp only [loaded, Hart.read, hartOf, Rv32iWidth.arch]
    change (_ : BitVec 32) = (ram (addr + 3)).toBitVec ++ (ram (addr + 2)).toBitVec ++ (ram (addr + 1)).toBitVec ++
      (ram addr).toBitVec
    generalize ram addr = b0
    generalize ram (addr + 1) = b1
    generalize ram (addr + 2) = b2
    generalize ram (addr + 3) = b3
    apply BitVec.eq_of_getLsbD_eq
    intro i hi
    simp only [BitVec.getLsbD_append]
    interval_cases i <;> simp

omit ram in
lemma loadValue_toBitVec (width : Rv32iWidth) (signed : Bool) (val : UInt32) :
    (loadValue width signed val).toBitVec = Hart.extend width.arch signed val.toBitVec := by
  cases width <;> cases signed <;> try rfl
  · exact signExtend_toBitVec val (show (8 : UInt32) = UInt32.ofNat 8 from rfl) (by omega) (by omega)
  · exact signExtend_toBitVec val (show (16 : UInt32) = UInt32.ofNat 16 from rfl) (by omega) (by omega)

lemma hartOf_storedRam (addr val : UInt32) (width : Rv32iWidth) :
    hartOf s (storedRam ram addr val width) = (hartOf s ram).store addr.toBitVec val.toBitVec width.arch := by
  have hupdate (ram : UInt32 → UInt8) (addr : UInt32) (v : UInt8) :
      (fun a => (Function.update ram addr v (UInt32.ofBitVec a)).toBitVec) =
        Function.update (fun a => (ram (UInt32.ofBitVec a)).toBitVec) addr.toBitVec v.toBitVec := by
    funext a
    by_cases h : a = addr.toBitVec
    · subst h
      simp
    · have h' : UInt32.ofBitVec a ≠ addr := fun heq => h (congrArg UInt32.toBitVec heq)
      simp [h, h']
  have hbyte (n : UInt32) (hn : n < 32) : (val >>> n).toUInt8.toBitVec = val.toBitVec.extractLsb' n.toNat 8 := by
    have hshift : n.toNat % 32 = n.toNat := Nat.mod_eq_of_lt (UInt32.lt_iff_toNat_lt.mp hn)
    ext i hi
    simp [hshift]
  have hlow : val.toUInt8.toBitVec = val.toBitVec.extractLsb' 0 8 := by
    ext i hi
    simp
  cases width <;> simp only [hartOf, storedRam, Hart.store, Rv32iWidth.arch, hupdate, hlow,
    hbyte _ (show (8 : UInt32) < 32 by decide), hbyte _ (show (16 : UInt32) < 32 by decide),
    hbyte _ (show (24 : UInt32) < 32 by decide)] <;> rfl

lemma hartOf_setReg (rd : Fin 32) (val : UInt32) :
    hartOf (s.setReg rd val) ram = (hartOf s ram).set rd val.toBitVec := by
  unfold Rv32iState.setReg Hart.set
  split_ifs with h
  · rfl
  · simp only [hartOf, Hart.mk.injEq, and_true]
    funext r
    by_cases hr : r = rd
    · simp [hr]
    · simp [hr]

def fetchedInsn (s : Rv32iState) (ram : UInt32 → UInt8) : UInt32 := loaded ram s.pc .word

lemma run_finish (hst : s.stalled = false) (next : UInt32) :
    ((rv32iFinish next).run s).run flatRam ram = ((1, { s with pc := next, cycles := s.cycles + 1 }), ram) := by
  rw [rv32iFinish, StateT.run_bind, StateT.run_get, pure_bind, if_neg (by simp [hst])]
  rfl

lemma hartOf_fault (cause : Rv32iFault) (addr : UInt32) :
    (hartOf (s.fault cause addr) ram, (s.fault cause addr).event) =
      (hartOf s ram, .trap cause.code.toBitVec addr.toBitVec) := rfl

lemma retired_outcome (hhalt : s.halted = false) (hfault : s.faulted = false) (rd : Fin 32) (val next : UInt32)
    (cycles : UInt64) :
    (hartOf { s.setReg rd val with pc := next, cycles } ram, Rv32iState.event { s.setReg rd val with pc := next, cycles }) =
      RiscV.retire ((hartOf s ram).set rd val.toBitVec) next.toBitVec := by
  have hevent : Rv32iState.event { s.setReg rd val with pc := next, cycles } = .retired := by
    unfold Rv32iState.setReg
    split_ifs <;> simp [Rv32iState.event, hhalt, hfault]
  rw [hevent, ← hartOf_setReg]
  rfl

/-- **What the core does with an effect** is what it comes to. -/
lemma perform_outcome (hh : s.hooked = false) (hhalt : s.halted = false) (hfault : s.faulted = false)
    (hst : s.stalled = false) (hpresent : s.ramPresent = true) (insn : UInt32) (eff : Rv32iEffect) :
    let out := ((rv32iPerform insn eff).run s).run flatRam ram
    (hartOf out.1.2 out.2, out.1.2.event) =
      eff.onHart s.ramSize.toNat (hartOf s ram) insn.toBitVec := by
  intro out
  have hstalled (rd : Fin 32) (val : UInt32) : (s.setReg rd val).stalled = false := by
    unfold Rv32iState.setReg
    split_ifs <;> exact hst
  cases eff with
  | retire rd val next =>
    have hout : out = ((1, { s.setReg rd val with pc := next, cycles := (s.setReg rd val).cycles + 1 }), ram) :=
      run_finish ram (hstalled rd val) next
    rw [hout]
    exact retired_outcome ram hhalt hfault rd val next _
  | load width signed rd addr =>
    by_cases halign : addr &&& (width.bytes - 1) = 0
    · by_cases hin : inRange s addr width.bytes = true
      · have hout : out =
            ((1, { s.setReg rd (loadValue width signed (loaded ram addr width)) with
              pc := s.pc + 4
              cycles := (s.setReg rd (loadValue width signed (loaded ram addr width))).cycles + 1 }), ram) := by
          change ((rv32iPerform insn (.load width signed rd addr)).run s).run flatRam ram = _
          rw [rv32iPerform, StateT.run_bind, StateT.run_get, pure_bind, if_neg (not_not.mpr halign),
            if_neg (by simp [hin]), StateT.run_bind, Prog.run_bind, run_loadWidth ram hh]
          exact run_finish ram (hstalled ..) _
        rw [hout, Rv32iEffect.onHart, if_neg (not_not.mpr ((aligned_iff addr width).mp halign)),
          if_neg (not_not.mpr ((inside_iff hpresent hh addr width).mp hin)), ← loaded_toBitVec, ← loadValue_toBitVec]
        exact retired_outcome ram hhalt hfault rd _ _ _
      · have hout : out = ((0, s.fault .loadAccess addr), ram) := by
          change ((rv32iPerform insn (.load width signed rd addr)).run s).run flatRam ram = _
          rw [rv32iPerform, StateT.run_bind, StateT.run_get, pure_bind, if_neg (not_not.mpr halign),
            if_pos (by simp [hin])]
          rfl
        rw [hout, Rv32iEffect.onHart, if_neg (not_not.mpr ((aligned_iff addr width).mp halign)),
          if_pos fun hinside => hin ((inside_iff hpresent hh addr width).mpr hinside)]
        exact hartOf_fault ram .loadAccess addr
    · have hout : out = ((0, s.fault .loadMisaligned addr), ram) := by
        change ((rv32iPerform insn (.load width signed rd addr)).run s).run flatRam ram = _
        rw [rv32iPerform, StateT.run_bind, StateT.run_get, pure_bind, if_pos halign]
        rfl
      rw [hout, Rv32iEffect.onHart, if_pos fun h => halign ((aligned_iff addr width).mpr h)]
      exact hartOf_fault ram .loadMisaligned addr
  | store width addr val =>
    by_cases halign : addr &&& (width.bytes - 1) = 0
    · by_cases hin : inRange s addr width.bytes = true
      · have hout : out = ((1, { s with pc := s.pc + 4, cycles := s.cycles + 1 }), storedRam ram addr val width) := by
          change ((rv32iPerform insn (.store width addr val)).run s).run flatRam ram = _
          rw [rv32iPerform, StateT.run_bind, StateT.run_get, pure_bind, if_neg (not_not.mpr halign),
            if_neg (by simp [hin]), StateT.run_bind, Prog.run_bind, run_storeWidth ram hh]
          exact run_finish _ hst _
        rw [hout, Rv32iEffect.onHart, if_neg (not_not.mpr ((aligned_iff addr width).mp halign)),
          if_neg (not_not.mpr ((inside_iff hpresent hh addr width).mp hin)), ← hartOf_storedRam]
        exact retired_outcome (storedRam ram addr val width) hhalt hfault 0 0 _ _
      · have hout : out = ((0, s.fault .storeAccess addr), ram) := by
          change ((rv32iPerform insn (.store width addr val)).run s).run flatRam ram = _
          rw [rv32iPerform, StateT.run_bind, StateT.run_get, pure_bind, if_neg (not_not.mpr halign),
            if_pos (by simp [hin])]
          rfl
        rw [hout, Rv32iEffect.onHart, if_neg (not_not.mpr ((aligned_iff addr width).mp halign)),
          if_pos fun hinside => hin ((inside_iff hpresent hh addr width).mpr hinside)]
        exact hartOf_fault ram .storeAccess addr
    · have hout : out = ((0, s.fault .storeMisaligned addr), ram) := by
        change ((rv32iPerform insn (.store width addr val)).run s).run flatRam ram = _
        rw [rv32iPerform, StateT.run_bind, StateT.run_get, pure_bind, if_pos halign]
        rfl
      rw [hout, Rv32iEffect.onHart, if_pos fun h => halign ((aligned_iff addr width).mpr h)]
      exact hartOf_fault ram .storeMisaligned addr
  | halt reason =>
    have hout : out =
        ((1, { s with
          halted := true, haltReason := reason, exitCode := s.x 10, pc := s.pc + 4, cycles := s.cycles + 1 }),
          ram) := rfl
    rw [hout, Rv32iEffect.onHart]
    simp only [Rv32iState.event, hfault, Bool.false_eq_true, if_false, if_true]
    rfl
  | illegal =>
    have hout : out = ((0, s.fault .illegal insn), ram) := rfl
    rw [hout]
    exact hartOf_fault ram .illegal insn

end Performed

/-- **What the core does with a word** is what its effect comes to. -/
theorem outcome_eq {s : Rv32iState} (h : s.Ready) (ram : UInt32 → UInt8) :
    rv32iOutcome s ram =
      (rv32iEffect s (fetchedInsn s ram)).onHart s.ramSize.toNat (hartOf s ram) (fetchedInsn s ram).toBitVec := by
  have hpresent : s.ramPresent = true := by
    have hr := h.inRange
    simp only [inRange, h.hooked, Bool.false_or, Bool.and_eq_true] at hr
    exact hr.1.1
  obtain ⟨hx, hpc, hsize, hhooked, hhalted, hfaulted, hstalled, hram⟩ :
      s.save.x = s.x ∧ s.save.pc = s.pc ∧ s.save.ramSize = s.ramSize ∧ s.save.hooked = s.hooked ∧
        s.save.halted = s.halted ∧ s.save.faulted = s.faulted ∧ s.save.stalled = s.stalled ∧
          s.save.ramPresent = s.ramPresent := by
    unfold Rv32iState.save
    split_ifs <;> exact ⟨rfl, rfl, rfl, rfl, rfl, rfl, rfl, rfl⟩
  have heffect (insn : UInt32) : rv32iEffect s.save insn = rv32iEffect s insn := by
    simp only [rv32iEffect, hx, hpc]
  have hhart : hartOf s.save ram = hartOf s ram := by simp only [hartOf, hx, hpc]
  have hstep : (rv32iStep.run s).run flatRam ram =
      ((rv32iPerform (fetchedInsn s ram) (rv32iEffect s.save (fetchedInsn s ram))).run s.save).run flatRam ram := by
    rw [rv32iStep, StateT.run_bind, StateT.run_get, pure_bind,
      if_neg (by simp [h.halted, h.faulted, h.stalled])]
    change ((if s.pc &&& 3 ≠ 0 then rv32iFault .insnMisaligned s.pc
      else if !RpcEmu.inRange s s.pc 4 then rv32iFault .insnAccess s.pc
      else do
        let insn ← loadWidth s.pc .word
        let s ← get
        rv32iPerform insn (rv32iEffect s insn)).run s.save).run flatRam ram = _
    rw [if_neg (not_not.mpr h.aligned), if_neg (by simp [h.inRange]), StateT.run_bind, Prog.run_bind,
      run_loadWidth ram (hhooked.trans h.hooked)]
    rfl
  have houtcome := perform_outcome ram (hhooked.trans h.hooked) (hhalted.trans h.halted)
    (hfaulted.trans h.faulted) (hstalled.trans h.stalled) (hram.trans hpresent) (fetchedInsn s ram)
    (rv32iEffect s.save (fetchedInsn s ram))
  rw [heffect, hsize, hhart] at houtcome
  rw [rv32iOutcome, hstep, heffect]
  exact houtcome

/-! ## What a word says -/

section Fields

variable (insn : UInt32)

lemma opcode_iff {o : BitVec 7} {y : UInt32} (hy : y.toBitVec = o.setWidth 32) :
    insn &&& 0x7f = y ↔ opcode insn.toBitVec = o := by
  have hfield : (insn &&& 0x7f).toBitVec = (opcode insn.toBitVec).setWidth 32 := by
    have h0 : insn >>> 0 = insn := by simp
    rw [← h0]
    exact field_toBitVec (insn >>> 0) (n := 0) (by decide) rfl
  exact setWidth_eq_iff (by omega) hfield hy

lemma funct3_toBitVec : ((insn >>> 12) &&& 0x7).toBitVec = (funct3 insn.toBitVec).setWidth 32 :=
  field_toBitVec insn (by decide) rfl

lemma funct7_toBitVec : ((insn >>> 25) &&& 0x7f).toBitVec = (funct7 insn.toBitVec).setWidth 32 :=
  field_toBitVec insn (by decide) rfl

lemma regField_eq {n : UInt32} (hn : n < 32) : regField insn n = (insn.toBitVec.extractLsb' n.toNat 5).toFin := by
  have hfield := congrArg BitVec.toNat (field_toBitVec insn (k := 5) hn (show (0x1f : UInt32).toBitVec = _ from rfl))
  apply Fin.ext
  rw [regField, Fin.val_ofNat, ← UInt32.toNat_toBitVec, hfield]
  simp

end Fields

lemma funct3_cases {f : BitVec 3} {g : UInt32} (h : g.toBitVec = f.setWidth 32) :
    (f = 0#3 ∧ g = 0) ∨ (f = 1#3 ∧ g = 1) ∨ (f = 2#3 ∧ g = 2) ∨ (f = 3#3 ∧ g = 3) ∨ (f = 4#3 ∧ g = 4) ∨
      (f = 5#3 ∧ g = 5) ∨ (f = 6#3 ∧ g = 6) ∨ (f = 7#3 ∧ g = 7) := by
  rcases bitVec3_cases f with rfl | rfl | rfl | rfl | rfl | rfl | rfl | rfl <;>
    simp [UInt32.toBitVec_inj.mp (h.trans (show _ = (_ : UInt32).toBitVec from rfl))]

lemma bitVec7_shift (f : BitVec 7) :
    f.setWidth 32 &&& ~~~0x20#32 = 0#32 ↔ f = 0b0000000#7 ∨ f = 0b0100000#7 := by
  revert f
  decide

section Words

variable {s : Rv32iState} {insn : UInt32} {ram : UInt32 → UInt8} (size : Nat)

omit size in
lemma get_hartOf (hx0 : s.x 0 = 0) (r : Reg) : (hartOf s ram).get r = (s.x r).toBitVec := by
  unfold Hart.get
  split_ifs with h
  · rw [h, hx0]
    rfl
  · rfl

omit size in
@[simp] lemma set_zero (h : Hart) (v : Word) : h.set 0 v = h := if_pos rfl

omit size in
lemma jump_iff (h : Hart) (rd : Reg) (dest : Word) :
    RiscV.retire (h.set rd (h.pc + 4)) dest = jump h rd dest ↔ RiscV.aligned dest .word := by
  unfold jump
  split_ifs with halign
  · exact iff_of_true rfl halign
  · refine iff_of_false (fun heq => ?_) halign
    have hevent := congrArg Prod.snd heq
    simp [RiscV.retire, raise] at hevent

omit size in
lemma rd_eq : regField insn 7 = rd insn.toBitVec := regField_eq insn (by decide)
omit size in
lemma rs1_eq : regField insn 15 = rs1 insn.toBitVec := regField_eq insn (by decide)
omit size in
lemma rs2_eq : regField insn 20 = rs2 insn.toBitVec := regField_eq insn (by decide)

/-- The effect is what the manual's step does. -/
def Same (s : Rv32iState) (ram : UInt32 → UInt8) (insn : UInt32) : Prop :=
  (rv32iEffect s insn).onHart size (hartOf s ram) insn.toBitVec = RiscV.step size (hartOf s ram) insn.toBitVec

lemma same_lui (ho : opcode insn.toBitVec = 0b0110111#7) : Same size s ram insn := by
  have h := (opcode_iff insn (y := 0x37) rfl).mpr ho
  simp only [Same, rv32iEffect, h, RiscV.step, decode, ho, Rv32iEffect.onHart, execute, immU_toBitVec, rd_eq]
  rfl

lemma same_auipc (ho : opcode insn.toBitVec = 0b0010111#7) : Same size s ram insn := by
  have h := (opcode_iff insn (y := 0x17) rfl).mpr ho
  simp only [Same, rv32iEffect, h, RiscV.step, decode, ho, Rv32iEffect.onHart, execute, UInt32.toBitVec_add,
    immU_toBitVec, rd_eq]
  rfl

lemma same_jal (ho : opcode insn.toBitVec = 0b1101111#7) :
    Same size s ram insn ↔ RiscV.aligned (s.pc.toBitVec + immJ insn.toBitVec) .word := by
  have h := (opcode_iff insn (y := 0x6f) rfl).mpr ho
  simp only [Same, rv32iEffect, h, RiscV.step, decode, ho, Rv32iEffect.onHart, execute, UInt32.toBitVec_add,
    jalOffset_toBitVec, rd_eq]
  exact jump_iff (hartOf s ram) _ _

lemma same_jalr (hx0 : s.x 0 = 0) (ho : opcode insn.toBitVec = 0b1100111#7) (hf : funct3 insn.toBitVec = 0b000#3) :
    Same size s ram insn ↔
      RiscV.aligned (((s.x (rs1 insn.toBitVec)).toBitVec + immI insn.toBitVec) &&& ~~~1) .word := by
  have h := (opcode_iff insn (y := 0x67) rfl).mpr ho
  have hf' := (setWidth_eq_iff (by omega) (funct3_toBitVec insn) (y := 0) rfl).mpr hf
  simp only [Same, rv32iEffect, h, hf', RiscV.step, decode, ho, hf, Rv32iEffect.onHart, execute, rd_eq, rs1_eq,
    get_hartOf hx0, ne_eq, not_true, if_false, if_true, UInt32.toBitVec_and, UInt32.toBitVec_add, immI_toBitVec]
  exact jump_iff (hartOf s ram) _ _

lemma same_jalr_illegal (ho : opcode insn.toBitVec = 0b1100111#7) (hf : funct3 insn.toBitVec ≠ 0b000#3) :
    Same size s ram insn := by
  have h := (opcode_iff insn (y := 0x67) rfl).mpr ho
  have hf' := (setWidth_eq_iff (by omega) (funct3_toBitVec insn) (y := 0) rfl).not.mpr hf
  simp only [Same, rv32iEffect, h, hf', RiscV.step, decode, ho, hf, Rv32iEffect.onHart, ne_eq, not_false_eq_true,
    if_true, if_false]

lemma same_branch (hx0 : s.x 0 = 0) (ho : opcode insn.toBitVec = 0b1100011#7) :
    Same size s ram insn ↔
      ∀ op, branchOp (funct3 insn.toBitVec) = some op →
        op.taken (s.x (rs1 insn.toBitVec)).toBitVec (s.x (rs2 insn.toBitVec)).toBitVec = true →
          RiscV.aligned (s.pc.toBitVec + immB insn.toBitVec) .word := by
  have h := (opcode_iff insn (y := 0x63) rfl).mpr ho
  simp only [Same, rv32iEffect, h, branchTaken_eq _ _ (funct3_toBitVec insn), RiscV.step, decode, ho]
  cases hop : branchOp (funct3 insn.toBitVec) with
  | none => simp [Rv32iEffect.onHart]
  | some op =>
    simp only [Option.map_some, execute, get_hartOf hx0, rs1_eq, rs2_eq, Rv32iEffect.onHart, set_zero,
      Option.some.injEq, forall_eq']
    cases htaken : op.taken (s.x (rs1 insn.toBitVec)).toBitVec (s.x (rs2 insn.toBitVec)).toBitVec with
    | false =>
      simp only [Bool.false_eq_true, if_false, false_implies, iff_true]
      rfl
    | true =>
      simp only [if_true, true_implies, UInt32.toBitVec_add, branchOffset_toBitVec]
      rw [← jump_iff (hartOf s ram) 0, set_zero]
      rfl

lemma same_load (hx0 : s.x 0 = 0) (ho : opcode insn.toBitVec = 0b0000011#7) : Same size s ram insn := by
  have h := (opcode_iff insn (y := 0x03) rfl).mpr ho
  have hf := funct3_toBitVec insn
  simp only [Same, rv32iEffect, h, RiscV.step, decode, ho]
  generalize funct3 insn.toBitVec = f at hf ⊢
  generalize (insn >>> 12) &&& 0x7 = g at hf ⊢
  rcases funct3_cases hf with ⟨rfl, rfl⟩ | ⟨rfl, rfl⟩ | ⟨rfl, rfl⟩ | ⟨rfl, rfl⟩ | ⟨rfl, rfl⟩ | ⟨rfl, rfl⟩ |
    ⟨rfl, rfl⟩ | ⟨rfl, rfl⟩
  case inr.inr.inr.inl | inr.inr.inr.inr.inr.inr.inl | inr.inr.inr.inr.inr.inr.inr => rfl
  all_goals
    simp only [loadOp, Option.map_some, execute, Rv32iEffect.onHart, get_hartOf hx0, rs1_eq, rd_eq,
      UInt32.toBitVec_add, immI_toBitVec]
    rfl

lemma same_store (hx0 : s.x 0 = 0) (ho : opcode insn.toBitVec = 0b0100011#7) : Same size s ram insn := by
  have h := (opcode_iff insn (y := 0x23) rfl).mpr ho
  have hf := funct3_toBitVec insn
  simp only [Same, rv32iEffect, h, RiscV.step, decode, ho]
  generalize funct3 insn.toBitVec = f at hf ⊢
  generalize (insn >>> 12) &&& 0x7 = g at hf ⊢
  rcases funct3_cases hf with ⟨rfl, rfl⟩ | ⟨rfl, rfl⟩ | ⟨rfl, rfl⟩ | ⟨rfl, rfl⟩ | ⟨rfl, rfl⟩ | ⟨rfl, rfl⟩ |
    ⟨rfl, rfl⟩ | ⟨rfl, rfl⟩
  case inl | inr.inl | inr.inr.inl =>
    simp only [storeOp, Option.map_some, execute, Rv32iEffect.onHart, get_hartOf hx0, rs1_eq, rs2_eq,
      UInt32.toBitVec_add, immS_toBitVec]
    rfl
  all_goals rfl

lemma same_slli (hx0 : s.x 0 = 0) (ho : opcode insn.toBitVec = 0b0010011#7) (hf : funct3 insn.toBitVec = 0b001#3) :
    Same size s ram insn ↔ funct7 insn.toBitVec ≠ 0b0100000#7 := by
  have h := (opcode_iff insn (y := 0x13) rfl).mpr ho
  have hf' := (setWidth_eq_iff (by omega) (funct3_toBitVec insn) (y := 1) rfl).mpr hf
  have h7 : ((insn >>> 25) &&& 0x7f) &&& ~~~0x20 = 0 ↔
      funct7 insn.toBitVec = 0b0000000#7 ∨ funct7 insn.toBitVec = 0b0100000#7 := by
    rw [← bitVec7_shift, ← funct7_toBitVec, ← UInt32.toBitVec_inj]
    rfl
  have halu (alt : Bool) : (alu 1 (s.x (rs1 insn.toBitVec)) ((insn >>> 20) &&& 0x1f) false alt).toBitVec =
      AluOp.sll.eval (s.x (rs1 insn.toBitVec)).toBitVec (shamt insn.toBitVec) := by
    rw [← shamt_toBitVec]
    exact alu_toBitVec _ _ false (f := 0b001#3) rfl
  simp only [Same, rv32iEffect, h, hf', RiscV.step, decode, ho, decodeOpImm, hf, ne_eq, h7, true_or, if_true, ite_not]
  by_cases hzero : funct7 insn.toBitVec = 0b0000000#7
  · refine iff_of_true ?_ (by rw [hzero]; decide)
    rw [if_pos (Or.inl hzero), if_pos hzero]
    simp only [Rv32iEffect.onHart, execute, rd_eq, rs1_eq, halu, get_hartOf hx0]
    rfl
  rw [if_neg hzero]
  by_cases halt : funct7 insn.toBitVec = 0b0100000#7
  · refine iff_of_false (fun heq => ?_) (not_not.mpr halt)
    rw [if_pos (Or.inr halt)] at heq
    have hevent := congrArg Prod.snd heq
    simp [Rv32iEffect.onHart, RiscV.retire, raise] at hevent
  · rw [if_neg (not_or.mpr ⟨hzero, halt⟩)]
    exact iff_of_true rfl halt

lemma same_srli (hx0 : s.x 0 = 0) (ho : opcode insn.toBitVec = 0b0010011#7) (hf : funct3 insn.toBitVec = 0b101#3) :
    Same size s ram insn := by
  have h := (opcode_iff insn (y := 0x13) rfl).mpr ho
  have hf' := (setWidth_eq_iff (by omega) (funct3_toBitVec insn) (y := 5) rfl).mpr hf
  have h7 : ((insn >>> 25) &&& 0x7f) &&& ~~~0x20 = 0 ↔
      funct7 insn.toBitVec = 0b0000000#7 ∨ funct7 insn.toBitVec = 0b0100000#7 := by
    rw [← bitVec7_shift, ← funct7_toBitVec, ← UInt32.toBitVec_inj]
    rfl
  simp only [Same, rv32iEffect, h, hf', RiscV.step, decode, ho, decodeOpImm, hf, ne_eq, h7, or_true, if_true, ite_not]
  by_cases hzero : funct7 insn.toBitVec = 0b0000000#7
  · have h7' := (setWidth_eq_iff (by omega) (funct7_toBitVec insn) (y := 0) rfl).mpr hzero
    rw [if_pos (Or.inl hzero), if_pos hzero]
    simp only [Rv32iEffect.onHart, execute, h7', get_hartOf hx0, rd_eq, rs1_eq, ← shamt_toBitVec]
    rw [show decide ¬(0 : UInt32) &&& 0x20 = 0 = false from rfl,
      alu_toBitVec _ _ false (show (5 : UInt32).toBitVec = (0b101#3).setWidth 32 from rfl)]
    rfl
  rw [if_neg hzero]
  by_cases halt : funct7 insn.toBitVec = 0b0100000#7
  · have h7' := (setWidth_eq_iff (by omega) (funct7_toBitVec insn) (y := 0x20) rfl).mpr halt
    rw [if_pos (Or.inr halt), if_pos halt]
    simp only [Rv32iEffect.onHart, execute, h7', get_hartOf hx0, rd_eq, rs1_eq, ← shamt_toBitVec]
    rw [show decide ¬(0x20 : UInt32) &&& 0x20 = 0 = true from rfl,
      alu_alt_toBitVec _ _ (show (5 : UInt32).toBitVec = (0b101#3).setWidth 32 from rfl) rfl]
    rfl
  · rw [if_neg (not_or.mpr ⟨hzero, halt⟩), if_neg halt]
    rfl

lemma same_opImm (hx0 : s.x 0 = 0) (ho : opcode insn.toBitVec = 0b0010011#7) (hf1 : funct3 insn.toBitVec ≠ 0b001#3)
    (hf5 : funct3 insn.toBitVec ≠ 0b101#3) : Same size s ram insn := by
  have h := (opcode_iff insn (y := 0x13) rfl).mpr ho
  have hf := funct3_toBitVec insn
  simp only [Same, rv32iEffect, h, RiscV.step, decode, ho, decodeOpImm]
  generalize funct3 insn.toBitVec = f at hf hf1 hf5 ⊢
  generalize (insn >>> 12) &&& 0x7 = g at hf ⊢
  have halu := alu_toBitVec (s.x (rs1 insn.toBitVec)) (signExtend (insn >>> 20) 12) true hf
  rcases funct3_cases hf with ⟨rfl, rfl⟩ | ⟨rfl, rfl⟩ | ⟨rfl, rfl⟩ | ⟨rfl, rfl⟩ | ⟨rfl, rfl⟩ | ⟨rfl, rfl⟩ |
    ⟨rfl, rfl⟩ | ⟨rfl, rfl⟩
  case inr.inl => exact absurd rfl hf1
  case inr.inr.inr.inr.inr.inl => exact absurd rfl hf5
  all_goals
    rw [if_neg (by decide)]
    simp only [Rv32iEffect.onHart, execute, rs1_eq, rd_eq, halu, get_hartOf hx0, immI_toBitVec]
    rfl

lemma same_op (hx0 : s.x 0 = 0) (ho : opcode insn.toBitVec = 0b0110011#7) : Same size s ram insn := by
  have h := (opcode_iff insn (y := 0x33) rfl).mpr ho
  have hf := funct3_toBitVec insn
  have h0 := setWidth_eq_iff (by omega) (funct7_toBitVec insn) (y := 0x00) (g := 0b0000000#7) rfl
  have h1 := setWidth_eq_iff (by omega) (funct7_toBitVec insn) (y := 0x01) (g := 0b0000001#7) rfl
  have h20 := setWidth_eq_iff (by omega) (funct7_toBitVec insn) (y := 0x20) (g := 0b0100000#7) rfl
  simp only [Same, rv32iEffect, h, RiscV.step, decode, ho, decodeOp, h0, h1, h20]
  by_cases hone : funct7 insn.toBitVec = 0b0000001#7
  · have hzero : ¬funct7 insn.toBitVec = 0b0000000#7 := by rw [hone]; decide
    have htwenty : ¬funct7 insn.toBitVec = 0b0100000#7 := by rw [hone]; decide
    rw [if_pos hone, if_neg hzero, if_neg htwenty, if_pos hone]
    simp only [Rv32iEffect.onHart, execute, muldiv_toBitVec _ _ hf, get_hartOf hx0, rd_eq, rs1_eq, rs2_eq]
    rfl
  rw [if_neg hone]
  by_cases hzero : funct7 insn.toBitVec = 0b0000000#7
  · have htwenty : ¬funct7 insn.toBitVec = 0b0100000#7 := by rw [hzero]; decide
    rw [if_pos (Or.inl hzero), if_neg fun hillegal => htwenty hillegal.1, decide_eq_false htwenty, if_pos hzero]
    simp only [Rv32iEffect.onHart, execute, alu_toBitVec _ _ false hf, get_hartOf hx0, rd_eq, rs1_eq, rs2_eq]
    rfl
  by_cases htwenty : funct7 insn.toBitVec = 0b0100000#7
  · rw [if_pos (Or.inr htwenty), decide_eq_true htwenty, if_neg hzero, if_pos htwenty]
    generalize funct3 insn.toBitVec = f at hf ⊢
    generalize (insn >>> 12) &&& 0x7 = g at hf ⊢
    have halu {op : AluOp} (hop : altOp f = some op) :=
      alu_alt_toBitVec (s.x (rs1 insn.toBitVec)) (s.x (rs2 insn.toBitVec)) hf hop
    rcases funct3_cases hf with ⟨rfl, rfl⟩ | ⟨rfl, rfl⟩ | ⟨rfl, rfl⟩ | ⟨rfl, rfl⟩ | ⟨rfl, rfl⟩ | ⟨rfl, rfl⟩ |
      ⟨rfl, rfl⟩ | ⟨rfl, rfl⟩
    case inl | inr.inr.inr.inr.inr.inl =>
      rw [if_neg (by simp)]
      simp only [Rv32iEffect.onHart, rd_eq, rs1_eq, rs2_eq, halu rfl, altOp, Option.map_some, execute, get_hartOf hx0]
      rfl
    all_goals
      rw [if_pos ⟨htwenty, by decide, by decide⟩]
      rfl
  · rw [if_neg (not_or.mpr ⟨hzero, htwenty⟩), if_neg hzero, if_neg htwenty, if_neg hone]
    rfl

lemma same_miscMem (ho : opcode insn.toBitVec = 0b0001111#7) : Same size s ram insn := by
  have h := (opcode_iff insn (y := 0x0f) rfl).mpr ho
  have hf0 := setWidth_eq_iff (by omega) (funct3_toBitVec insn) (y := 0) (g := 0b000#3) rfl
  have hf1 := setWidth_eq_iff (by omega) (funct3_toBitVec insn) (y := 1) (g := 0b001#3) rfl
  simp only [Same, rv32iEffect, h, RiscV.step, decode, ho, decodeMiscMem, ne_eq, hf0, hf1]
  split_ifs with hn h0 h1
  · exact absurd h0 hn.1
  · exact absurd h1 hn.2
  · rfl
  · simp only [Rv32iEffect.onHart, set_zero]
    rfl
  · simp only [Rv32iEffect.onHart, set_zero]
    rfl
  · exact absurd ⟨‹_›, ‹_›⟩ hn

lemma same_system (ho : opcode insn.toBitVec = 0b1110011#7) : Same size s ram insn := by
  have h := (opcode_iff insn (y := 0x73) rfl).mpr ho
  have hopcode : insn.toNat % 128 = 115 := by
    have hn := congrArg BitVec.toNat ho
    simpa [opcode] using hn
  have hrd : rd insn.toBitVec = 0 ↔ insn.toNat / 2 ^ 7 % 32 = 0 := by
    rw [← Fin.val_inj]
    simp [rd, Nat.shiftRight_eq_div_pow]
  have hfunct3 : (insn >>> 12) &&& 0x7 = 0 ↔ insn.toNat / 2 ^ 12 % 8 = 0 := by
    rw [← UInt32.toNat_inj, UInt32.toNat_and, show (0x7 : UInt32).toNat = 2 ^ 3 - 1 from rfl,
      Nat.and_two_pow_sub_one_eq_mod]
    simp [Nat.shiftRight_eq_div_pow]
  have hrs1 : rs1 insn.toBitVec = 0 ↔ insn.toNat / 2 ^ 15 % 32 = 0 := by
    rw [← Fin.val_inj]
    simp [rs1, Nat.shiftRight_eq_div_pow]
  have htop (n : UInt32) : insn >>> 20 = n ↔ insn.toNat / 2 ^ 20 = n.toNat := by
    rw [← UInt32.toNat_inj]
    simp [Nat.shiftRight_eq_div_pow]
  have htop0 : insn >>> 20 = 0 ↔ insn.toNat / 2 ^ 20 = 0 := htop 0
  have htop1 : insn >>> 20 = 1 ↔ insn.toNat / 2 ^ 20 = 1 := htop 1
  have hword (n : UInt32) : insn.toBitVec = n.toBitVec ↔ insn.toNat = n.toNat := by
    rw [UInt32.toBitVec_inj, UInt32.toNat_inj]
  have hecall : insn.toBitVec = 0x00000073#32 ↔ insn.toNat = 115 := hword 0x73
  have hebreak : insn.toBitVec = 0x00100073#32 ↔ insn.toNat = 1048691 := hword 0x100073
  simp only [Same, rv32iEffect, h, RiscV.step, decode, ho, decodeSystem, rd_eq, rs1_eq, ne_eq, hrd, hfunct3, hrs1,
    htop0, htop1, hecall, hebreak]
  by_cases hfields : insn.toNat / 2 ^ 12 % 8 = 0 ∧ insn.toNat / 2 ^ 7 % 32 = 0 ∧ insn.toNat / 2 ^ 15 % 32 = 0
  · obtain ⟨h12, h7, h15⟩ := hfields
    rw [if_neg (by simp only [h12, h7, h15, not_true_eq_false, or_self, not_false_eq_true])]
    by_cases h0 : insn.toNat / 2 ^ 20 = 0
    · have hn : insn.toNat = 115 := by omega
      rw [if_pos h0, if_pos hn]
      rfl
    have hne : ¬insn.toNat = 115 := by omega
    rw [if_neg h0, if_neg hne]
    by_cases h1 : insn.toNat / 2 ^ 20 = 1
    · have hn : insn.toNat = 1048691 := by omega
      rw [if_pos h1, if_pos hn]
      rfl
    · have hn : ¬insn.toNat = 1048691 := by omega
      rw [if_neg h1, if_neg hn]
      rfl
  · have hecall : ¬insn.toNat = 115 := by omega
    have hebreak : ¬insn.toNat = 1048691 := by omega
    have hsome := not_and_or.mp hfields
    rw [not_and_or] at hsome
    rw [if_pos hsome, if_neg hecall, if_neg hebreak]
    rfl

lemma same_other (ho : opcode insn.toBitVec ∉ [0b0110111#7, 0b0010111#7, 0b1101111#7, 0b1100111#7, 0b1100011#7,
    0b0000011#7, 0b0100011#7, 0b0010011#7, 0b0110011#7, 0b0001111#7, 0b1110011#7]) : Same size s ram insn := by
  simp only [List.mem_cons, List.not_mem_nil, or_false, not_or] at ho
  obtain ⟨h0, h1, h2, h3, h4, h5, h6, h7, h8, h9, h10⟩ := ho
  have hnone : decode insn.toBitVec = none := by
    unfold decode
    split <;> first | contradiction | rfl
  have hne {o : BitVec 7} {y : UInt32} (hy : y.toBitVec = o.setWidth 32) (h : ¬opcode insn.toBitVec = o) :
      insn &&& 0x7f ≠ y := (opcode_iff insn hy).not.mpr h
  have hillegal : rv32iEffect s insn = .illegal := by
    unfold rv32iEffect
    simp only []
    split
    · exact absurd ‹_› (hne rfl h0)
    · exact absurd ‹_› (hne rfl h1)
    · exact absurd ‹_› (hne rfl h2)
    · exact absurd ‹_› (hne rfl h3)
    · exact absurd ‹_› (hne rfl h4)
    · exact absurd ‹_› (hne rfl h5)
    · exact absurd ‹_› (hne rfl h6)
    · exact absurd ‹_› (hne rfl h7)
    · exact absurd ‹_› (hne rfl h8)
    · exact absurd ‹_› (hne rfl h9)
    · exact absurd ‹_› (hne rfl h10)
    · rfl
  rw [Same, hillegal, RiscV.step, hnone]
  rfl

/-! ## The exceptions -/

/-- SLLI with SRAI's `funct7`, which the manual reserves. -/
def ReservedShift (w : Word) : Prop :=
  opcode w = 0b0010011#7 ∧ funct3 w = 0b001#3 ∧ funct7 w = 0b0100000#7

/-- A jump or branch taken to an address that is not aligned. -/
def Astray (h : Hart) (w : Word) : Prop :=
  ∃ i t, decode w = some i ∧ target h i = some t ∧ ¬RiscV.aligned t .word

lemma not_reservedShift {w : Word} {o : BitVec 7} (ho : opcode w = o) (hne : o ≠ 0b0010011#7) : ¬ReservedShift w :=
  fun hr => hne (ho.symm.trans hr.1)

lemma not_astray {h : Hart} {w : Word} {o : BitVec 7} (ho : opcode w = o) (hjal : o ≠ 0b1101111#7)
    (hjalr : o ≠ 0b1100111#7) (hbranch : o ≠ 0b1100011#7) : ¬Astray h w := by
  rintro ⟨i, t, hi, ht, -⟩
  rcases opcode_of_target hi ht with h | h | h
  · exact hjal (ho.symm.trans h)
  · exact hjalr (ho.symm.trans h)
  · exact hbranch (ho.symm.trans h)

lemma astray_iff {h : Hart} {w : Word} {i : Instr} (hi : decode w = some i) :
    Astray h w ↔ ∃ t, target h i = some t ∧ ¬RiscV.aligned t .word := by
  simp only [Astray, hi, Option.some.injEq, exists_and_left, exists_eq_left']

lemma same_iff (hx0 : s.x 0 = 0) :
    Same size s ram insn ↔ ¬ReservedShift insn.toBitVec ∧ ¬Astray (hartOf s ram) insn.toBitVec := by
  have hregular {o : BitVec 7} (ho : opcode insn.toBitVec = o) (hsame : Same size s ram insn)
      (hne : o ≠ 0b0010011#7) (hjal : o ≠ 0b1101111#7) (hjalr : o ≠ 0b1100111#7) (hbranch : o ≠ 0b1100011#7) :
      Same size s ram insn ↔ ¬ReservedShift insn.toBitVec ∧ ¬Astray (hartOf s ram) insn.toBitVec :=
    iff_of_true hsame ⟨not_reservedShift ho hne, not_astray ho hjal hjalr hbranch⟩
  by_cases hlui : opcode insn.toBitVec = 0b0110111#7
  · exact hregular hlui (same_lui size hlui) (by decide) (by decide) (by decide) (by decide)
  by_cases hauipc : opcode insn.toBitVec = 0b0010111#7
  · exact hregular hauipc (same_auipc size hauipc) (by decide) (by decide) (by decide) (by decide)
  by_cases hjal : opcode insn.toBitVec = 0b1101111#7
  · have hi : decode insn.toBitVec = some (.jal (rd insn.toBitVec) (immJ insn.toBitVec)) := by simp only [decode, hjal]
    rw [same_jal size hjal, astray_iff hi]
    simp [not_reservedShift hjal (by decide), target, hartOf]
  by_cases hjalr : opcode insn.toBitVec = 0b1100111#7
  · by_cases hf : funct3 insn.toBitVec = 0b000#3
    · have hi : decode insn.toBitVec =
          some (.jalr (rd insn.toBitVec) (rs1 insn.toBitVec) (immI insn.toBitVec)) := by
        simp only [decode, hjalr, hf, if_true]
      rw [same_jalr size hx0 hjalr hf, astray_iff hi]
      simp only [not_reservedShift hjalr (by decide), target, get_hartOf hx0, Option.some.injEq, exists_eq_left',
        not_not, not_false_eq_true, true_and]
    · have hi : decode insn.toBitVec = none := by simp only [decode, hjalr, hf, if_false]
      refine iff_of_true (same_jalr_illegal size hjalr hf) ⟨not_reservedShift hjalr (by decide), ?_⟩
      simp [Astray, hi]
  by_cases hbranch : opcode insn.toBitVec = 0b1100011#7
  · rw [same_branch size hx0 hbranch]
    cases hop : branchOp (funct3 insn.toBitVec) with
    | none =>
      have hi : decode insn.toBitVec = none := by simp only [decode, hbranch, hop, Option.map_none]
      simp [not_reservedShift hbranch (by decide), Astray, hi]
    | some op =>
      have hi : decode insn.toBitVec =
          some (.branch op (rs1 insn.toBitVec) (rs2 insn.toBitVec) (immB insn.toBitVec)) := by
        simp only [decode, hbranch, hop, Option.map_some]
      rw [astray_iff hi]
      simp only [not_reservedShift hbranch (by decide), target, get_hartOf hx0, Option.some.injEq, forall_eq',
        not_false_eq_true, true_and]
      cases op.taken (s.x (rs1 insn.toBitVec)).toBitVec (s.x (rs2 insn.toBitVec)).toBitVec <;> simp [hartOf]
  by_cases hload : opcode insn.toBitVec = 0b0000011#7
  · exact hregular hload (same_load size hx0 hload) (by decide) (by decide) (by decide) (by decide)
  by_cases hstore : opcode insn.toBitVec = 0b0100011#7
  · exact hregular hstore (same_store size hx0 hstore) (by decide) (by decide) (by decide) (by decide)
  by_cases hopImm : opcode insn.toBitVec = 0b0010011#7
  · have hastray : ¬Astray (hartOf s ram) insn.toBitVec := not_astray hopImm (by decide) (by decide) (by decide)
    by_cases hf1 : funct3 insn.toBitVec = 0b001#3
    · rw [same_slli size hx0 hopImm hf1]
      simp [ReservedShift, hopImm, hf1, hastray]
    have hshift : ¬ReservedShift insn.toBitVec := fun hr => hf1 hr.2.1
    by_cases hf5 : funct3 insn.toBitVec = 0b101#3
    · exact iff_of_true (same_srli size hx0 hopImm hf5) ⟨hshift, hastray⟩
    · exact iff_of_true (same_opImm size hx0 hopImm hf1 hf5) ⟨hshift, hastray⟩
  by_cases hop : opcode insn.toBitVec = 0b0110011#7
  · exact hregular hop (same_op size hx0 hop) (by decide) (by decide) (by decide) (by decide)
  by_cases hmiscMem : opcode insn.toBitVec = 0b0001111#7
  · exact hregular hmiscMem (same_miscMem size hmiscMem) (by decide) (by decide) (by decide) (by decide)
  by_cases hsystem : opcode insn.toBitVec = 0b1110011#7
  · exact hregular hsystem (same_system size hsystem) (by decide) (by decide) (by decide) (by decide)
  · exact hregular rfl (same_other size (by simp_all)) hopImm hjal hjalr hbranch

end Words

lemma onHart_x_zero (size : Nat) (h : Hart) (w : Word) (eff : Rv32iEffect) : (eff.onHart size h w).1.x 0 = h.x 0 := by
  have hset (rd : Reg) (v : Word) : (h.set rd v).x 0 = h.x 0 := by
    unfold Hart.set
    split_ifs with hrd
    · rfl
    · exact Function.update_of_ne (Ne.symm hrd) ..
  cases eff with
  | retire rd val next => exact hset rd _
  | load width signed rd addr =>
    simp only [Rv32iEffect.onHart]
    split_ifs
    · exact hset rd _
    · rfl
    · rfl
  | store width addr val =>
    simp only [Rv32iEffect.onHart]
    split_ifs
    · cases width <;> rfl
    · rfl
    · rfl
  | halt reason => rfl
  | illegal => rfl

/-- **The core's step is the architecture's**, and just when the word is no shift to the left with bit 30 set, and
no jump or taken branch to an address that is no multiple of four; x0 stays zero in any case. -/
theorem step_is_architecture_iff {s : Rv32iState} (h : s.Ready) (ram : UInt32 → UInt8) :
    let w := (hartOf s ram).read (hartOf s ram).pc .word
    (rv32iOutcome s ram = RiscV.step s.ramSize.toNat (hartOf s ram) w ↔
        ¬ReservedShift w ∧ ¬Astray (hartOf s ram) w) ∧
      (rv32iOutcome s ram).1.x 0 = 0 := by
  intro w
  have hw : w = (fetchedInsn s ram).toBitVec := (loaded_toBitVec ram s.pc .word).symm
  rw [outcome_eq h ram, hw]
  refine ⟨same_iff _ h.x0, ?_⟩
  rw [onHart_x_zero]
  exact congrArg UInt32.toBitVec h.x0

lemma ready_init : (rv32iInit true 0x1000).Ready where
  hooked := rfl
  halted := rfl
  faulted := rfl
  stalled := rfl
  x0 := rfl
  aligned := rfl
  inRange := rfl

theorem step_is_architecture_addi :
    let s := rv32iInit true 0x1000
    let ram : UInt32 → UInt8 := fun a => [0x93, 0x00, 0x50, 0x00].getD a.toNat 0
    rv32iOutcome s ram = RiscV.step s.ramSize.toNat (hartOf s ram) ((hartOf s ram).read 0 .word) ∧
      (rv32iOutcome s ram).1.x 1 = 5 ∧ (rv32iOutcome s ram).1.x 0 = 0 := by
  intro s ram
  have h := step_is_architecture_iff ready_init ram
  have hastray : ¬Astray (hartOf s ram) ((hartOf s ram).read 0 .word) :=
    not_astray (o := 0b0010011#7) (by decide) (by decide) (by decide) (by decide)
  exact ⟨h.1.mpr ⟨fun hr => absurd hr.2.1 (by decide), hastray⟩, by decide, h.2⟩

theorem reserved_shift_retires :
    ¬∀ s : Rv32iState, s.Ready → ∀ ram : UInt32 → UInt8,
      rv32iOutcome s ram =
        RiscV.step s.ramSize.toNat (hartOf s ram) ((hartOf s ram).read (hartOf s ram).pc .word) := by
  intro hall
  have h := hall _ ready_init fun a => [0x93, 0x10, 0x00, 0x40].getD a.toNat 0
  exact absurd (congrArg Prod.snd h) (by decide)

end RpcEmu
