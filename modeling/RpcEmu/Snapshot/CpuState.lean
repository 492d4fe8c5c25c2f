import RpcEmu.Arm.Banks
import RpcEmu.Lib.Stream
import Mathlib.Data.List.GetD

/-!
# The CPU in a snapshot

`arm_savestate` and `arm_loadstate`, and what `cp15_loadstate` sets in the core.

**The gaps.**  A reserved mode stores nothing back, and so loads what User mode has; and a 26-bit mode is
written in the low bits of `reg[16]` whatever was there.
-/

namespace RpcEmu.Snapshot

open Arm Streams

variable {σ : Type}

/-! ## Saving -/

/-- `cp15`, as far as it is saved. -/
structure Cp15 where
  ctrl : UInt32
  translationTable : UInt32
  domainAccessControl : UInt32
  faultStatus : UInt32
  faultAddress : UInt32

/-- `cp15_savestate`. -/
def cp15Savestate (cp15 : Cp15) : List UInt8 :=
  u32sBytes [cp15.ctrl, cp15.translationTable, cp15.domainAccessControl, cp15.faultStatus, cp15.faultAddress]

def regWords (n : Nat) (regs : Nat → UInt32) : List UInt32 := (List.range n).map regs

def pairWords (p : UInt32 × UInt32) : List UInt32 := [p.1, p.2]

def flagByte (b : Bool) : UInt8 := if b then 1 else 0

/-- `arm_savestate`. -/
def armSavestate (a : ArmState σ) : List UInt8 :=
  u32sBytes (regWords 17 a.reg) ++ (u32Bytes a.mode ++ (u32Bytes a.world.event ++
    (u32sBytes (regWords 15 a.userReg) ++ (u32sBytes (regWords 15 a.fiqReg) ++
    (u32sBytes (pairWords a.irqReg) ++ (u32sBytes (pairWords a.superReg) ++
    (u32sBytes (pairWords a.abortReg) ++ (u32sBytes (pairWords a.undefReg) ++
    (u32sBytes (regWords 16 a.spsr) ++ (u32Bytes a.r15Diff ++ ([flagByte a.abortBaseRestored] ++
    ([flagByte a.stmWritebackAtEnd] ++ [flagByte a.archV4]))))))))))))

/-! ## Loading -/

def cp15CtrlProg32 : UInt32 := 0x10

/-- `cp15_loadstate`, as far as the core is concerned. -/
def cp15Loadstate (a : ArmState σ) : Read (ArmState σ) := do
  let words ← readU32s 5
  pure { a with prog32 := words.getD 0 0 &&& cp15CtrlProg32 != 0 }

def filled (words : List UInt32) (regs : Nat → UInt32) : Nat → UInt32 := fun c => words.getD c (regs c)

def pairOf (words : List UInt32) : UInt32 × UInt32 := (words.getD 0 0, words.getD 1 0)

def reservedMode (m : UInt32) : Bool := !([0, 1, 2, 3, 7, 11, 15].contains (m &&& 0xf).toNat)

/-- The end of `arm_loadstate`: the change to the mode that was read, and the banks as they were read.  In a
reserved mode the change is fatal where there is no debugger to stop in. -/
def resume (debugEnabled : Bool) (saved : ArmState σ) : Option (ArmState σ) :=
  if reservedMode saved.mode && !debugEnabled then none
  else
    some { updatemode saved saved.mode with
      userReg := saved.userReg, fiqReg := saved.fiqReg, irqReg := saved.irqReg
      superReg := saved.superReg, abortReg := saved.abortReg, undefReg := saved.undefReg }

/-- `arm_loadstate`: none where the emulator stops. -/
def armLoadstate (debugEnabled : Bool) (a : ArmState σ) : Read (Option (ArmState σ)) := do
  let reg ← readU32s 17
  let mode ← readU32
  let event ← readU32
  let userReg ← readU32s 15
  let fiqReg ← readU32s 15
  let irqReg ← readU32s 2
  let superReg ← readU32s 2
  let abortReg ← readU32s 2
  let undefReg ← readU32s 2
  let spsr ← readU32s 16
  let r15Diff ← readU32
  let abortBaseRestored ← readU8
  let stmWritebackAtEnd ← readU8
  let archV4 ← readU8
  pure (resume debugEnabled { a with
    reg := filled reg a.reg, mode := mode, world := { a.world with event := event }
    userReg := filled userReg a.userReg, fiqReg := filled fiqReg a.fiqReg
    irqReg := pairOf irqReg, superReg := pairOf superReg, abortReg := pairOf abortReg
    undefReg := pairOf undefReg, spsr := filled spsr a.spsr, r15Diff := r15Diff
    abortBaseRestored := abortBaseRestored != 0, stmWritebackAtEnd := stmWritebackAtEnd != 0
    archV4 := archV4 != 0 })

def loaded (debugEnabled : Bool) (cp15 : Cp15) (a t : ArmState σ) : Option (ArmState σ) :=
  ((cp15Loadstate t >>= armLoadstate debugEnabled).run handler
    (Stream.opened (cp15Savestate cp15 ++ armSavestate a))).1

/-! ## What is to be restored -/

/-- **The CPU as it was saved**, with what belongs to its mode. -/
structure Restored (a t : ArmState σ) : Prop where
  /-- R0–R15, and the CPSR. -/
  reg : ∀ c < 17, t.reg c = a.reg c
  mode : t.mode = a.mode
  event : t.world.event = a.world.event
  userReg : ∀ c < 15, t.userReg c = a.userReg c
  fiqReg : ∀ c < 15, t.fiqReg c = a.fiqReg c
  irqReg : t.irqReg = a.irqReg
  superReg : t.superReg = a.superReg
  abortReg : t.abortReg = a.abortReg
  undefReg : t.undefReg = a.undefReg
  spsr : ∀ c < 16, t.spsr c = a.spsr c
  follows : Follows t
  usrregs : (∀ r < 15, t.usrregs r = userPtr a.mode r) ∧ t.usrregs 15 = .reg 15

/-- In a reserved mode there is a debugger, and R8–R14 are those of User mode; in a 26-bit mode `reg[16]`
shows the mode. -/
structure Restorable (debugEnabled : Bool) (a : ArmState σ) : Prop where
  reserved : reservedMode a.mode = true → debugEnabled = true ∧ ∀ r, 8 ≤ r → r < 15 → a.reg r = a.userReg r
  shows : armMode32 a.mode = false → a.reg 16 = (a.reg 16 &&& 0xffffffe0) ||| a.mode

/-! ## Changing to the mode it is in -/

section SameMode

variable (a : ArmState σ)

lemma storeBack_usrregs (u : Nat → RegPtr) :
    storeBack { a with usrregs := u } = { storeBack a with usrregs := u } := by
  unfold storeBack
  dsimp only
  generalize (a.mode &&& 0xf).toNat = k
  split <;> rfl

lemma updatemode_reg (m : UInt32) {r : Nat} (hr : r < 15) :
    (updatemode a m).reg r = stored (storeBack a) (home (bankOf m) r) r := by
  have hplace := (sameBanks_placePsr (rebanked a m) a.mode).reg r hr
  rw [updatemode_eq]
  refine hplace.trans ?_
  rw [rebanked, loadBank_reg _ _ hr, storeBack_usrregs]
  cases home (bankOf m) r <;> rfl

lemma updatemode_usrregs (m : UInt32) :
    (∀ r < 15, (updatemode a m).usrregs r = userPtr m r) ∧ (updatemode a m).usrregs 15 = .reg 15 := by
  have hplace := (sameBanks_placePsr (rebanked a m) a.mode).usrregs
  have hload : ∀ t : ArmState σ, (loadBank t m).usrregs 15 = t.usrregs 15 := by
    intro t
    unfold loadBank
    split <;> rfl
  rw [updatemode_eq]
  refine ⟨?_, ?_⟩
  · intro r hr
    exact (congrFun hplace r).trans (loadBank_usrregs _ _ hr)
  · refine (congrFun hplace 15).trans ?_
    rw [rebanked, hload, storeBack_usrregs]
    exact Function.update_self 15 _ a.usrregs

lemma updatemode_own (h : reservedMode a.mode = false) {r : Nat} (hr : r < 15) :
    (updatemode a a.mode).reg r = a.reg r := by
  have hbits : (a.mode &&& 0xf).toNat ∈ [0, 1, 2, 3, 7, 11, 15] := by
    simpa only [reservedMode, Bool.not_eq_false', List.contains_iff_mem] using h
  rw [updatemode_reg a a.mode hr, stored_storeBack_bits hbits hr (home_home _ _), banked, if_pos rfl]

lemma updatemode_reserved (h : reservedMode a.mode = true) {r : Nat} (hr : r < 15) :
    (updatemode a a.mode).reg r = if r < 8 then a.reg r else a.userReg r := by
  have hnot : (a.mode &&& 0xf).toNat ∉ [0, 1, 2, 3, 7, 11, 15] := by
    rw [← List.contains_iff_mem]
    simpa only [reservedMode, Bool.not_eq_true', Bool.not_eq_true] using h
  simp only [List.mem_cons, List.not_mem_nil, or_false, not_or] at hnot
  obtain ⟨h0, h1, h2, h3, h7, h11, h15⟩ := hnot
  have hbank : bankOf a.mode = .usr := by
    unfold bankOf
    split <;> first | rfl | contradiction
  have hback : storeBack a = a := by
    unfold storeBack
    split <;> first | rfl | contradiction
  rw [updatemode_reg a a.mode hr, hbank, hback, home_usr]
  rfl

lemma updatemode_status :
    (updatemode a a.mode).reg 15 = a.reg 15 ∧
      (updatemode a a.mode).reg 16 =
        if armMode32 a.mode then a.reg 16 else (a.reg 16 &&& 0xffffffe0) ||| a.mode := by
  rw [updatemode_r15, updatemode_r16]
  unfold movedR15 movedR16
  by_cases h32 : armMode32 a.mode = true <;> simp [h32]

end SameMode

/-! ## What is loaded -/

section Loaded

variable (debugEnabled : Bool) (cp15 : Cp15) (a t : ArmState σ)

def readBack : ArmState σ :=
  { t with
    prog32 := cp15.ctrl &&& cp15CtrlProg32 != 0
    reg := filled (regWords 17 a.reg) t.reg, mode := a.mode, world := { t.world with event := a.world.event }
    userReg := filled (regWords 15 a.userReg) t.userReg, fiqReg := filled (regWords 15 a.fiqReg) t.fiqReg
    irqReg := a.irqReg, superReg := a.superReg, abortReg := a.abortReg, undefReg := a.undefReg
    spsr := filled (regWords 16 a.spsr) t.spsr, r15Diff := a.r15Diff
    abortBaseRestored := a.abortBaseRestored, stmWritebackAtEnd := a.stmWritebackAtEnd, archV4 := a.archV4 }

lemma flagByte_ne (b : Bool) : (flagByte b != 0) = b := by cases b <;> rfl

lemma filled_regWords {n : Nat} (regs old : Nat → UInt32) {c : Nat} (h : c < n) :
    filled (regWords n regs) old c = regs c := by
  rw [filled, regWords, List.getD_eq_getElem _ _ (by simpa using h), List.getElem_map, List.getElem_range]

lemma reads_regs (n : Nat) (regs : Nat → UInt32) :
    Reads (readU32s n) (u32sBytes (regWords n regs)) (regWords n regs) := by
  have h := Reads.u32s (regWords n regs)
  rwa [regWords, List.length_map, List.length_range] at h

lemma armLoadstate_reads (t : ArmState σ) :
    Reads (armLoadstate debugEnabled { t with prog32 := cp15.ctrl &&& cp15CtrlProg32 != 0 }) (armSavestate a)
      (resume debugEnabled (readBack cp15 a t)) := by
  have hpair : ∀ p : UInt32 × UInt32, Reads (readU32s 2) (u32sBytes (pairWords p)) (pairWords p) :=
    fun p => Reads.u32s (pairWords p)
  refine (reads_regs 17 a.reg).bind ((Reads.u32 a.mode).bind ((Reads.u32 a.world.event).bind
    ((reads_regs 15 a.userReg).bind ((reads_regs 15 a.fiqReg).bind ((hpair a.irqReg).bind
    ((hpair a.superReg).bind ((hpair a.abortReg).bind ((hpair a.undefReg).bind
    ((reads_regs 16 a.spsr).bind ((Reads.u32 a.r15Diff).bind ((Reads.u8 _).bind
    ((Reads.u8 _).bind ((Reads.u8 _).last ?_)))))))))))))
  rw [flagByte_ne, flagByte_ne, flagByte_ne]
  exact Reads.pure _

lemma loaded_eq : loaded debugEnabled cp15 a t = resume debugEnabled (readBack cp15 a t) := by
  have hcp15 : Reads (cp15Loadstate t) (cp15Savestate cp15)
      { t with prog32 := cp15.ctrl &&& cp15CtrlProg32 != 0 } := (Reads.u32s _).last (Reads.pure _)
  have hreads := hcp15.bind (armLoadstate_reads debugEnabled cp15 a t)
  have hrun := hreads (Stream.opened (cp15Savestate cp15 ++ armSavestate a)) [] rfl (by simp [Stream.ahead, Stream.opened])
  rw [loaded, hrun]

end Loaded

/-! ## What is restored -/

section Restored

variable (debugEnabled : Bool) (cp15 : Cp15) (a t : ArmState σ)

lemma updatemode_keeps_iff (s : ArmState σ) :
    (∀ c < 17, (updatemode s s.mode).reg c = s.reg c) ↔
      (reservedMode s.mode = true → ∀ r, 8 ≤ r → r < 15 → s.reg r = s.userReg r) ∧
        (armMode32 s.mode = false → s.reg 16 = (s.reg 16 &&& 0xffffffe0) ||| s.mode) := by
  obtain ⟨h15, h16⟩ := updatemode_status s
  constructor
  · intro h
    refine ⟨?_, ?_⟩
    · intro hreserved r h8 hr
      have hkept := h r (by omega)
      rw [updatemode_reserved s hreserved hr, if_neg (Nat.not_lt.mpr h8)] at hkept
      exact hkept.symm
    · intro h26
      have hkept := h 16 (by omega)
      rw [h16, if_neg (by simp [h26])] at hkept
      exact hkept.symm
  · rintro ⟨hbank, hshows⟩ c hc
    rcases Nat.lt_or_ge c 15 with hlow | hhigh
    · cases hreserved : reservedMode s.mode with
      | false => exact updatemode_own s hreserved hlow
      | true =>
        rw [updatemode_reserved s hreserved hlow]
        split
        next => rfl
        next h8 => exact (hbank hreserved c (Nat.not_lt.mp h8) hlow).symm
    · obtain rfl | rfl : c = 15 ∨ c = 16 := by omega
      · exact h15
      · rw [h16]
        split
        next => rfl
        next h26 => exact (hshows (by simpa using h26)).symm

lemma restored_iff_reg :
    Restored a { updatemode (readBack cp15 a t) a.mode with
        userReg := (readBack cp15 a t).userReg, fiqReg := (readBack cp15 a t).fiqReg, irqReg := a.irqReg
        superReg := a.superReg, abortReg := a.abortReg, undefReg := a.undefReg } ↔
      ∀ c < 17, (updatemode (readBack cp15 a t) a.mode).reg c = (readBack cp15 a t).reg c := by
  have hreg : ∀ c < 17, (readBack cp15 a t).reg c = a.reg c := fun c hc => filled_regWords _ _ hc
  have hrest := sameRest_updatemode (readBack cp15 a t) a.mode
  have hfollows := follows_updatemode (readBack cp15 a t) a.mode
  constructor
  · intro h c hc
    rw [hreg c hc]
    exact h.reg c hc
  · intro h
    refine ⟨?_, updatemode_mode _ _, ?_, ?_, ?_, rfl, rfl, rfl, rfl, ?_, ?_, updatemode_usrregs _ _⟩
    · intro c hc
      exact (h c hc).trans (hreg c hc)
    · show (updatemode (readBack cp15 a t) a.mode).world.event = a.world.event
      rw [hrest.world]
      rfl
    · exact fun c hc => filled_regWords _ _ hc
    · exact fun c hc => filled_regWords _ _ hc
    · intro c hc
      exact (congrFun hrest.spsr c).trans (filled_regWords _ _ hc)
    · exact ⟨hfollows.mmask, hfollows.r15Mask, hfollows.cpsr, hfollows.memmode⟩

lemma restorable_of_restored {r : ArmState σ} (hloaded : loaded debugEnabled cp15 a t = some r)
    (hrestored : Restored a r) : Restorable debugEnabled a := by
  have hreg : ∀ c < 17, (readBack cp15 a t).reg c = a.reg c := fun c hc => filled_regWords _ _ hc
  have huser : ∀ c < 15, (readBack cp15 a t).userReg c = a.userReg c := fun c hc => filled_regWords _ _ hc
  rw [loaded_eq, resume] at hloaded
  split at hloaded
  next => cases hloaded
  next hgoes =>
    obtain rfl := Option.some_inj.mp hloaded
    obtain ⟨hbank, hshows⟩ :=
      (updatemode_keeps_iff (readBack cp15 a t)).mp ((restored_iff_reg cp15 a t).mp hrestored)
    refine ⟨?_, ?_⟩
    · intro hreserved
      refine ⟨?_, ?_⟩
      · by_contra hoff
        exact hgoes (by simp [show reservedMode (readBack cp15 a t).mode = true from hreserved, hoff])
      · intro r h8 hr
        rw [← hreg r (by omega), ← huser r hr]
        exact hbank hreserved r h8 hr
    · intro h26
      rw [← hreg 16 (by omega)]
      exact hshows h26

end Restored

/-- **A snapshot gives the CPU back**, whatever was in the emulator before, exactly when it was not in a
reserved mode with registers other than User mode's, or with no debugger to stop in, and `reg[16]` showed
a 26-bit mode. -/
theorem cpu_restored_iff (debugEnabled : Bool) (cp15 : Cp15) (a t : ArmState σ) :
    (∃ r, loaded debugEnabled cp15 a t = some r ∧ Restored a r) ↔ Restorable debugEnabled a := by
  constructor
  · rintro ⟨r, hloaded, hrestored⟩
    exact restorable_of_restored debugEnabled cp15 a t hloaded hrestored
  · intro h
    have hreg : ∀ c < 17, (readBack cp15 a t).reg c = a.reg c := fun c hc => filled_regWords _ _ hc
    have huser : ∀ c < 15, (readBack cp15 a t).userReg c = a.userReg c := fun c hc => filled_regWords _ _ hc
    have hgoes : ¬(reservedMode (readBack cp15 a t).mode && !debugEnabled) = true := by
      intro hstops
      simp only [Bool.and_eq_true, Bool.not_eq_true'] at hstops
      exact absurd (h.reserved hstops.1).1 (by simp [hstops.2])
    rw [loaded_eq]
    refine ⟨_, if_neg hgoes,
      (restored_iff_reg cp15 a t).mpr ((updatemode_keeps_iff (readBack cp15 a t)).mpr ⟨?_, ?_⟩)⟩
    · intro hreserved r h8 hr
      rw [hreg r (by omega), huser r hr]
      exact (h.reserved hreserved).2 r h8 hr
    · intro h26
      rw [hreg 16 (by omega)]
      exact h.shows h26

def resetCore : ArmState Unit := armReset .sa110 true ⟨0, ()⟩

theorem cpu_not_restored :
    (¬∃ r, loaded true ⟨0, 0, 0, 0, 0⟩ resetCore resetCore = some r ∧ Restored resetCore r) ∧
      ¬∃ r, loaded true ⟨0, 0, 0, 0, 0⟩ ((updatemode resetCore 0x14).setReg 8 5) resetCore = some r ∧
        Restored ((updatemode resetCore 0x14).setReg 8 5) r := by
  refine ⟨?_, ?_⟩
  · rintro ⟨r, hloaded, hrestored⟩
    exact absurd ((restorable_of_restored _ _ _ _ hloaded hrestored).shows (by decide)) (by decide)
  · rintro ⟨r, hloaded, hrestored⟩
    have h := (restorable_of_restored _ _ _ _ hloaded hrestored).reserved (by decide)
    exact absurd (h.2 8 (by decide) (by decide)) (by decide)

end RpcEmu.Snapshot
