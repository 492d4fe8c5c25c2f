import RpcEmu.Arm.State
import RpcEmu.Lib.Masks

/-!
# What a change of mode does

`updatemode` in terms of what it leaves: the mode, the fields that follow from it, the status where the
new mode has it, and nothing else but R8–R14 and the banks.
-/

namespace RpcEmu.Arm

variable {σ : Type}

/-- What belongs to the mode: `memmode`, `mmask`, `r15_mask` and `cpsr`. -/
structure Follows (a : ArmState σ) : Prop where
  mmask : a.mmask = if armMode32 a.mode then 0x1f else 3
  r15Mask : a.r15Mask = if armMode32 a.mode then 0xfffffffc else 0x3fffffc
  cpsr : a.cpsr = if armMode32 a.mode then 16 else 15
  memmode : a.memmode = armModePriv a.mode

/-- All that a change of mode leaves alone. -/
structure SameRest (a t : ArmState σ) : Prop where
  spsr : t.spsr = a.spsr
  r15Diff : t.r15Diff = a.r15Diff
  abortBaseRestored : t.abortBaseRestored = a.abortBaseRestored
  stmWritebackAtEnd : t.stmWritebackAtEnd = a.stmWritebackAtEnd
  archV4 : t.archV4 = a.archV4
  prog32 : t.prog32 = a.prog32
  world : t.world = a.world

lemma SameRest.trans {a t u : ArmState σ} (h : SameRest a t) (h' : SameRest t u) : SameRest a u where
  spsr := h'.spsr.trans h.spsr
  r15Diff := h'.r15Diff.trans h.r15Diff
  abortBaseRestored := h'.abortBaseRestored.trans h.abortBaseRestored
  stmWritebackAtEnd := h'.stmWritebackAtEnd.trans h.stmWritebackAtEnd
  archV4 := h'.archV4.trans h.archV4
  prog32 := h'.prog32.trans h.prog32
  world := h'.world.trans h.world

/-! ## The three parts -/

lemma storeBack_reg (a : ArmState σ) : (storeBack a).reg = a.reg := by
  unfold storeBack
  split <;> rfl

lemma sameRest_storeBack (a : ArmState σ) : SameRest a (storeBack a) := by
  unfold storeBack
  split <;> exact ⟨rfl, rfl, rfl, rfl, rfl, rfl, rfl⟩

@[simp] lemma loadBank_mode (a : ArmState σ) (m : UInt32) : (loadBank a m).mode = a.mode := by
  unfold loadBank
  split <;> rfl

lemma sameRest_loadBank (a : ArmState σ) (m : UInt32) : SameRest a (loadBank a m) := by
  unfold loadBank
  split <;> exact ⟨rfl, rfl, rfl, rfl, rfl, rfl, rfl⟩

lemma loadBank_reg_of_le (a : ArmState σ) (m : UInt32) {r : Nat} (hr : 15 ≤ r) :
    (loadBank a m).reg r = a.reg r := by
  have hcopy : ∀ hi src, hi ≤ 15 → copyRegs 8 hi src a.reg r = a.reg r := by
    intro hi src hhi
    exact if_neg (by omega)
  have h13 : r ≠ 13 := by omega
  have h14 : r ≠ 14 := by omega
  unfold loadBank
  split <;> simp [loadLink, hcopy, h13, h14]

@[simp] lemma placePsr_mode (a : ArmState σ) (om : UInt32) : (placePsr a om).mode = a.mode := by
  unfold placePsr
  split <;> dsimp only <;> split <;> rfl

lemma sameRest_placePsr (a : ArmState σ) (om : UInt32) : SameRest a (placePsr a om) := by
  unfold placePsr
  split <;> dsimp only <;> split <;> exact ⟨rfl, rfl, rfl, rfl, rfl, rfl, rfl⟩

/-- R15 after the move of the status; `om` was left and `m` is entered. -/
def movedR15 (om m r15 r16 : UInt32) : UInt32 :=
  if armMode32 m then if armMode32 om then r15 else r15 &&& 0x3fffffc
  else if armMode32 om then
    (r15 &&& (0x3fffffc : UInt32)) ||| (m &&& (3 : UInt32)) |||
      (((r16 &&& (0xffffffe0 : UInt32)) ||| m) &&& (0xf0000000 : UInt32)) |||
      ((((r16 &&& (0xffffffe0 : UInt32)) ||| m) &&& (0xc0 : UInt32)) <<< 20)
  else r15

def movedR16 (om m r15 r16 : UInt32) : UInt32 :=
  if armMode32 m then
    if armMode32 om then r16
    else (r15 &&& (0xf0000000 : UInt32)) ||| m ||| ((r15 &&& (0xc000000 : UInt32)) >>> 20)
  else (r16 &&& (0xffffffe0 : UInt32)) ||| m

lemma placePsr_r15 (a : ArmState σ) (om : UInt32) :
    (placePsr a om).reg 15 = movedR15 om a.mode (a.reg 15) (a.reg 16) := by
  unfold placePsr movedR15
  split <;> dsimp only <;> split <;> simp [ArmState.setReg]

lemma placePsr_r16 (a : ArmState σ) (om : UInt32) :
    (placePsr a om).reg 16 = movedR16 om a.mode (a.reg 15) (a.reg 16) := by
  unfold placePsr movedR16
  split <;> dsimp only <;> split <;> simp [ArmState.setReg]

/-! ## The whole -/

section Whole

variable (a : ArmState σ) (m : UInt32)

def rebanked : ArmState σ :=
  loadBank { storeBack { a with usrregs := Function.update a.usrregs 15 (.reg 15) } with mode := m } m

lemma updatemode_eq :
    updatemode a m = { placePsr (rebanked a m) a.mode with
      memmode := armModePriv (placePsr (rebanked a m) a.mode).mode } := rfl

@[simp] lemma rebanked_mode : (rebanked a m).mode = m := loadBank_mode _ _

lemma rebanked_reg {r : Nat} (hr : 15 ≤ r) : (rebanked a m).reg r = a.reg r := by
  rw [rebanked, loadBank_reg_of_le _ _ hr]
  exact congrFun (storeBack_reg _) r

@[simp] lemma updatemode_mode : (updatemode a m).mode = m := by
  rw [updatemode_eq]
  exact (placePsr_mode _ _).trans (rebanked_mode a m)

lemma updatemode_r15 : (updatemode a m).reg 15 = movedR15 a.mode m (a.reg 15) (a.reg 16) := by
  rw [updatemode_eq]
  show (placePsr (rebanked a m) a.mode).reg 15 = _
  rw [placePsr_r15, rebanked_mode, rebanked_reg a m (Nat.le_refl 15), rebanked_reg a m (by omega)]

lemma updatemode_r16 : (updatemode a m).reg 16 = movedR16 a.mode m (a.reg 15) (a.reg 16) := by
  rw [updatemode_eq]
  show (placePsr (rebanked a m) a.mode).reg 16 = _
  rw [placePsr_r16, rebanked_mode, rebanked_reg a m (Nat.le_refl 15), rebanked_reg a m (by omega)]

/-- **Everything that belongs to the mode follows it.** -/
lemma follows_updatemode : Follows (updatemode a m) := by
  have h : (placePsr (rebanked a m) a.mode).mmask = (if armMode32 m then 0x1f else 3) ∧
      (placePsr (rebanked a m) a.mode).r15Mask = (if armMode32 m then 0xfffffffc else 0x3fffffc) ∧
      (placePsr (rebanked a m) a.mode).cpsr = if armMode32 m then 16 else 15 := by
    unfold placePsr
    rw [rebanked_mode]
    split <;> dsimp only <;> split <;> exact ⟨rfl, rfl, rfl⟩
  refine ⟨?_, ?_, ?_, rfl⟩ <;> rw [updatemode_mode]
  · exact h.1
  · exact h.2.1
  · exact h.2.2

lemma sameRest_updatemode : SameRest a (updatemode a m) := by
  have h₁ : SameRest a { a with usrregs := Function.update a.usrregs 15 (.reg 15) } :=
    ⟨rfl, rfl, rfl, rfl, rfl, rfl, rfl⟩
  have h₂ := h₁.trans (sameRest_storeBack _)
  have h₃ : SameRest a { storeBack { a with usrregs := Function.update a.usrregs 15 (.reg 15) } with
      mode := m } := h₂.trans ⟨rfl, rfl, rfl, rfl, rfl, rfl, rfl⟩
  have h₄ := (h₃.trans (sameRest_loadBank _ m)).trans (sameRest_placePsr _ a.mode)
  exact h₄.trans ⟨rfl, rfl, rfl, rfl, rfl, rfl, rfl⟩

end Whole

/-! ## What no status write touches -/

/-- All that a write to the status leaves alone. -/
structure Kept (a t : ArmState σ) : Prop where
  r15Diff : t.r15Diff = a.r15Diff
  abortBaseRestored : t.abortBaseRestored = a.abortBaseRestored
  stmWritebackAtEnd : t.stmWritebackAtEnd = a.stmWritebackAtEnd
  archV4 : t.archV4 = a.archV4
  prog32 : t.prog32 = a.prog32
  world : t.world = a.world

namespace Kept

lemma refl (a : ArmState σ) : Kept a a := ⟨rfl, rfl, rfl, rfl, rfl, rfl⟩

lemma trans {a t u : ArmState σ} (h : Kept a t) (h' : Kept t u) : Kept a u where
  r15Diff := h'.r15Diff.trans h.r15Diff
  abortBaseRestored := h'.abortBaseRestored.trans h.abortBaseRestored
  stmWritebackAtEnd := h'.stmWritebackAtEnd.trans h.stmWritebackAtEnd
  archV4 := h'.archV4.trans h.archV4
  prog32 := h'.prog32.trans h.prog32
  world := h'.world.trans h.world

lemma setReg (a : ArmState σ) (r : Nat) (v : UInt32) : Kept a (a.setReg r v) :=
  ⟨rfl, rfl, rfl, rfl, rfl, rfl⟩

lemma updatemode (a : ArmState σ) (m : UInt32) : Kept a (updatemode a m) :=
  have h := sameRest_updatemode a m
  ⟨h.r15Diff, h.abortBaseRestored, h.stmWritebackAtEnd, h.archV4, h.prog32, h.world⟩

lemma followPsr (a : ArmState σ) : Kept a (followPsr a) := by
  unfold Arm.followPsr
  split
  · exact Kept.updatemode _ _
  · exact refl a

lemma restoreSpsr (a : ArmState σ) : Kept a (restoreSpsr a) := by
  unfold Arm.restoreSpsr
  split
  · exact setReg _ _ _
  · exact refl a

lemma armWriteR15 (a : ArmState σ) (dest : UInt32) : Kept a (armWriteR15 a dest) := by
  unfold Arm.armWriteR15
  dsimp only
  split
  · exact ((setReg a 15 _).trans (restoreSpsr _)).trans (followPsr _)
  · exact setReg _ _ _

lemma armCompareRd15 (a : ArmState σ) (dest : UInt32) : Kept a (armCompareRd15 a dest) := by
  unfold Arm.armCompareRd15
  split
  · split
    · exact (restoreSpsr a).trans (followPsr _)
    · exact followPsr a
  · exact (setReg a 15 _).trans (followPsr _)

lemma cpsrWritten (a : ArmState σ) (op value : UInt32) : Kept a (cpsrWritten a op value) := by
  unfold Arm.cpsrWritten
  dsimp only
  split
  · exact setReg _ _ _
  · unfold copyCpsr
    split <;> split <;> exact ⟨rfl, rfl, rfl, rfl, rfl, rfl⟩

lemma armWriteCpsr (a : ArmState σ) (op value : UInt32) : Kept a (armWriteCpsr a op value) := by
  unfold Arm.armWriteCpsr
  dsimp only
  split
  · exact (cpsrWritten a _ value).trans (Kept.updatemode _ _)
  · exact cpsrWritten a _ value

lemma exception (a : ArmState σ) (mmode address diff : UInt32) :
    Kept a (exception a mmode address diff) := by
  unfold Arm.exception
  dsimp only
  split
  · have h : Kept a { a with spsr := Function.update a.spsr mmode.toNat (a.reg 16) } :=
      ⟨rfl, rfl, rfl, rfl, rfl, rfl⟩
    have h' := h.trans (Kept.updatemode _ (0x10 ||| mmode))
    exact ⟨h'.r15Diff, h'.abortBaseRestored, h'.stmWritebackAtEnd, h'.archV4, h'.prog32, h'.world⟩
  · split
    · have h := Kept.updatemode a (0x10 ||| mmode)
      exact ⟨h.r15Diff, h.abortBaseRestored, h.stmWritebackAtEnd, h.archV4, h.prog32, h.world⟩
    · have h := Kept.updatemode a (if supervisor ≤ mmode then supervisor else mmode)
      exact ⟨h.r15Diff, h.abortBaseRestored, h.stmWritebackAtEnd, h.archV4, h.prog32, h.world⟩

end Kept

end RpcEmu.Arm
