import RpcEmu.Arm.Exec
import RpcEmu.Arm.Multiple
import RpcEmu.Arm.Modes

/-!
# What an instruction leaves of the status

Most instructions have nothing to do with the mode.  Here is what that comes to, family by family, in
two strengths.

* **`Moves dest`**: nothing that belongs to the mode has changed, and in a 26-bit mode R15 is exactly
  what a branch to `dest` makes of it, or untouched where `dest` is `none`.
* **`Frame`**: the same, but of R15 and the CPSR only the mode is known to be as before.  This is what
  instructions that write flags leave.

A register that is written as a plain register has to be below R15, unless the mode is a 32-bit one: in
a 26-bit mode R15 has the status, and such a write goes over it.
-/

namespace RpcEmu.Arm

open Masks Pages

variable {σ : Type}

@[simp] lemma setReg_self (a : ArmState σ) (r : Nat) (v : UInt32) : (a.setReg r v).reg r = v :=
  Function.update_self _ _ _

lemma setReg_of_ne (a : ArmState σ) {r s : Nat} (h : s ≠ r) (v : UInt32) :
    (a.setReg r v).reg s = a.reg s := Function.update_of_ne h _ _

/-! ## The two frames -/

/-- Nothing by which the mode is known has moved. -/
structure SameMode (a t : ArmState σ) : Prop where
  mode : t.mode = a.mode
  mmask : t.mmask = a.mmask
  r15Mask : t.r15Mask = a.r15Mask
  cpsr : t.cpsr = a.cpsr
  memmode : t.memmode = a.memmode
  usrregs : t.usrregs = a.usrregs
  spsr : t.spsr = a.spsr

structure Frame (a t : ArmState σ) : Prop extends SameMode a t where
  r15 : armMode32 a.mode = false → t.reg 15 &&& 3 = a.reg 15 &&& 3
  r16 : armMode32 a.mode = true → t.reg 16 &&& 0x1f = a.reg 16 &&& 0x1f

/-- R15 after an instruction that goes to `dest`. -/
def placedR15 (a : ArmState σ) : Option UInt32 → UInt32
  | none => a.reg 15
  | some v => put a.r15Mask (a.reg 15) (v + 4)

/-- The instruction has gone to `dest`. -/
structure Moves (dest : Option UInt32) (a t : ArmState σ) : Prop extends SameMode a t where
  r15 : armMode32 a.mode = false → t.reg 15 = placedR15 a dest
  r16 : armMode32 a.mode = true → t.reg 16 &&& 0x1f = a.reg 16 &&& 0x1f

/-- `r` may be written and the status stays. -/
def Free (a : ArmState σ) (r : Nat) : Prop := r < 16 ∧ (r = 15 → armMode32 a.mode = true)

lemma SameMode.refl (a : ArmState σ) : SameMode a a := ⟨rfl, rfl, rfl, rfl, rfl, rfl, rfl⟩

lemma SameMode.trans {a t u : ArmState σ} (h : SameMode a t) (h' : SameMode t u) : SameMode a u where
  mode := h'.mode.trans h.mode
  mmask := h'.mmask.trans h.mmask
  r15Mask := h'.r15Mask.trans h.r15Mask
  cpsr := h'.cpsr.trans h.cpsr
  memmode := h'.memmode.trans h.memmode
  usrregs := h'.usrregs.trans h.usrregs
  spsr := h'.spsr.trans h.spsr

lemma SameMode.setReg (a : ArmState σ) (r : Nat) (v : UInt32) : SameMode a (a.setReg r v) :=
  ⟨rfl, rfl, rfl, rfl, rfl, rfl, rfl⟩

lemma SameMode.free {a t : ArmState σ} (h : SameMode a t) {r : Nat} (hr : Free a r) : Free t r :=
  ⟨hr.1, fun h15 => by rw [h.mode]; exact hr.2 h15⟩

namespace Frame

lemma refl (a : ArmState σ) : Frame a a := ⟨SameMode.refl a, fun _ => rfl, fun _ => rfl⟩

lemma trans {a t u : ArmState σ} (h : Frame a t) (h' : Frame t u) : Frame a u where
  toSameMode := h.toSameMode.trans h'.toSameMode
  r15 h26 := (h'.r15 (by rw [h.mode]; exact h26)).trans (h.r15 h26)
  r16 h32 := (h'.r16 (by rw [h.mode]; exact h32)).trans (h.r16 h32)

lemma psr {a : ArmState σ} {v : UInt32} (h : v &&& 0x1f = a.psr &&& 0x1f) :
    Frame a (a.setReg a.cpsr v) where
  toSameMode := SameMode.setReg a _ v
  r15 _ := by
    by_cases h15 : 15 = a.cpsr
    · have hp : a.psr = a.reg 15 := by rw [ArmState.psr, ← h15]
      rw [← h15, setReg_self, ← hp]
      exact and_eq_of_and_eq h (by decide)
    · rw [setReg_of_ne a h15]
  r16 _ := by
    by_cases h16 : 16 = a.cpsr
    · have hp : a.psr = a.reg 16 := by rw [ArmState.psr, ← h16]
      rw [← h16, setReg_self, ← hp]
      exact h
    · rw [setReg_of_ne a h16]

end Frame

namespace Moves

lemma refl (a : ArmState σ) : Moves none a a := ⟨SameMode.refl a, fun _ => rfl, fun _ => rfl⟩

lemma trans {dest : Option UInt32} {a t u : ArmState σ} (h : Moves none a t) (h' : Moves dest t u) :
    Moves dest a u where
  toSameMode := h.toSameMode.trans h'.toSameMode
  r15 h26 := by
    have ht := h.r15 h26
    rw [h'.r15 (by rw [h.mode]; exact h26)]
    cases dest with
    | none => exact ht
    | some v =>
      simp only [placedR15] at ht ⊢
      rw [ht, h.r15Mask]
  r16 h32 := (h'.r16 (by rw [h.mode]; exact h32)).trans (h.r16 h32)

lemma withWorld (a : ArmState σ) (w : World σ) : Moves none a (a.withWorld w) :=
  ⟨⟨rfl, rfl, rfl, rfl, rfl, rfl, rfl⟩, fun _ => rfl, fun _ => rfl⟩

lemma setReg {a : ArmState σ} {r : Nat} (hr : Free a r) (v : UInt32) : Moves none a (a.setReg r v) where
  toSameMode := SameMode.setReg a r v
  r15 h26 := by
    have hne : 15 ≠ r := fun h => by
      have h32 := hr.2 h.symm
      rw [h26] at h32
      exact absurd h32 (by decide)
    exact setReg_of_ne a hne v
  r16 _ := by
    have hne : 16 ≠ r := by have := hr.1; omega
    rw [setReg_of_ne a hne]

lemma branch (a : ArmState σ) (v : UInt32) :
    Moves (some v) a (a.setReg 15 (put a.r15Mask (a.reg 15) (v + 4))) where
  toSameMode := SameMode.setReg a 15 _
  r15 _ := setReg_self a 15 _
  r16 _ := by rw [setReg_of_ne a (by decide)]

lemma frame {dest : Option UInt32} {a t : ArmState σ} (h : Moves dest a t)
    (hmask : a.r15Mask &&& 3 = 0) : Frame a t where
  toSameMode := h.toSameMode
  r15 h26 := by
    rw [h.r15 h26]
    cases dest with
    | none => rfl
    | some v => exact put_and_outside hmask _ _
  r16 := h.r16

lemma still {a t : ArmState σ} (h : Moves none a t) : Frame a t where
  toSameMode := h.toSameMode
  r15 h26 := by rw [h.r15 h26]; rfl
  r16 := h.r16

end Moves

/-! ## Registers and branches -/

lemma free_of {a : ArmState σ} {r : Nat} (hlt : r < 16)
    (h : r ≠ 15 ∨ armMode32 a.mode = true) : Free a r :=
  ⟨hlt, fun h15 => h.resolve_left fun hne => hne h15⟩

lemma moves_branch {a : ArmState σ} {v x : UInt32} (h : x = put a.r15Mask (a.reg 15) (v + 4)) :
    Moves (some v) a (a.setReg 15 x) := by
  rw [h]
  exact Moves.branch a v

/-- The destination of a value for register `r`. -/
def destOf (r : Nat) (v : UInt32) : Option UInt32 := if r = 15 then some v else none

lemma moves_loadreg (a : ArmState σ) {r : Nat} (hr : r < 16) (v : UInt32) :
    Moves (destOf r v) a (loadreg a r v) := by
  unfold loadreg destOf
  split
  · exact moves_branch rfl
  · rename_i hne
    exact Moves.setReg (free_of hr (Or.inl hne)) v

lemma moves_armWriteDest (a : ArmState σ) (op dest : UInt32) :
    Moves (destOf (rd op) dest) a (armWriteDest a op dest) := by
  unfold armWriteDest destOf
  split
  · exact moves_branch (UInt32.or_comm _ _)
  · rename_i hne
    exact Moves.setReg (free_of (rd_lt op) (Or.inl hne)) dest

/-! ## Flags -/

lemma ite_low {c : Prop} [Decidable c] {f : UInt32} (h : f &&& 0x1f = 0) :
    (if c then f else 0) &&& 0x1f = 0 := by
  split
  · exact h
  · rfl

lemma flagsNZ_low (result : UInt32) : flagsNZ result &&& 0x1f = 0 := by
  rw [flagsNZ, or_and, ite_low (by decide), UInt32.and_assoc, show nflag &&& 0x1f = 0 by decide,
    UInt32.and_zero, UInt32.or_self]

lemma frame_setFlags (a : ArmState σ) {keep flags : UInt32} (hk : keep &&& 0x1f = 0x1f)
    (hf : flags &&& 0x1f = 0) : Frame a (setFlags a keep flags) := by
  refine Frame.psr ?_
  rw [or_and, hf, UInt32.or_zero, and_and hk]

/-- The flags are set and the mode stays. -/
def SetsFlags (flags : ArmState σ → UInt32 → UInt32 → UInt32 → ArmState σ) : Prop :=
  ∀ a x y z, Frame a (flags a x y z)

lemma setsFlags_of {f : UInt32 → UInt32 → UInt32 → Prop} {g : UInt32 → UInt32 → UInt32 → Prop}
    [∀ x y z, Decidable (f x y z)] [∀ x y z, Decidable (g x y z)] :
    SetsFlags fun (a : ArmState σ) x y z => setFlags a 0x0fffffff (flagsNZ z |||
      (if f x y z then cflag else 0) ||| (if g x y z then vflag else 0)) := by
  intro a x y z
  refine frame_setFlags a (by decide) ?_
  rw [or_and, or_and, flagsNZ_low, ite_low (by decide), ite_low (by decide), UInt32.or_self,
    UInt32.or_self]

lemma setsFlags_add : SetsFlags (armFlagsAdd : ArmState σ → _) := setsFlags_of

lemma setsFlags_sub : SetsFlags (armFlagsSub : ArmState σ → _) := setsFlags_of

lemma setsFlags_adc : SetsFlags (armFlagsAdc : ArmState σ → _) := setsFlags_of

lemma setsFlags_sbc : SetsFlags (armFlagsSbc : ArmState σ → _) := setsFlags_of

lemma setsFlags_rsb : SetsFlags (armFlagsRsb : ArmState σ → _) := fun a x y z =>
  setsFlags_sub a y x z

lemma setsFlags_rsc : SetsFlags (armFlagsRsc : ArmState σ → _) := fun a x y z =>
  setsFlags_sbc a y x z

lemma frame_armFlagsLogical (a : ArmState σ) (result : UInt32) :
    Frame a (armFlagsLogical a result) :=
  frame_setFlags a (by decide) (flagsNZ_low result)

lemma frame_armFlagsLongMultiply (a : ArmState σ) (result : UInt64) :
    Frame a (armFlagsLongMultiply a result) := by
  refine frame_setFlags a (by decide) ?_
  rw [or_and, ite_low (by decide), UInt32.and_assoc, show nflag &&& 0x1f = 0 by decide,
    UInt32.and_zero, UInt32.or_self]

lemma frame_setC (a : ArmState σ) : Frame a (setC a) := by
  refine Frame.psr ?_
  rw [or_and, show cflag &&& 0x1f = 0 by decide, UInt32.or_zero]

lemma frame_clearC (a : ArmState σ) : Frame a (clearC a) := Frame.psr (and_and (by decide))

lemma frame_clearV (a : ArmState σ) : Frame a (clearV a) := Frame.psr (and_and (by decide))

lemma frame_raiseC (a : ArmState σ) (c : Bool) : Frame a (raiseC a c) := by
  cases c with
  | false => exact Frame.refl a
  | true => exact frame_setC a

lemma frame_writeC (a : ArmState σ) (c : Bool) : Frame a (writeC a c) := by
  cases c with
  | false => exact frame_clearC a
  | true => exact frame_setC a

/-! ## The carry of the shifter -/

lemma frame_shiftLsl (a : ArmState σ) (temp amount : UInt32) : Frame a (shiftLsl a temp amount).2 := by
  unfold shiftLsl
  split
  · exact Frame.refl a
  · split
    · exact frame_raiseC _ _
    · split
      · exact Frame.refl a
      · exact frame_raiseC _ _

lemma frame_shiftLsr (op : UInt32) (a : ArmState σ) (temp amount : UInt32) :
    Frame a (shiftLsr op a temp amount).2 := by
  unfold shiftLsr
  generalize (if amount = 0 ∧ op &&& 0x10 = 0 then (32 : UInt32) else amount) = n
  dsimp only
  split
  · exact Frame.refl a
  · split
    · exact frame_writeC _ _
    · split
      · exact Frame.refl a
      · exact frame_raiseC _ _

lemma frame_shiftAsr (op : UInt32) (a : ArmState σ) (temp amount : UInt32) :
    Frame a (shiftAsr op a temp amount).2 := by
  unfold shiftAsr
  split
  · exact Frame.refl a
  · split
    · exact frame_writeC _ _
    · exact frame_raiseC _ _

lemma shiftLeft29_low (x : UInt32) : (x <<< 29) &&& 0x1f = 0 := by
  apply UInt32.toNat_inj.mp
  rw [UInt32.toNat_and, UInt32.toNat_shiftLeft]
  show (x.toNat <<< 29) % 2 ^ 32 &&& 2 ^ 5 - 1 = 0
  rw [Nat.and_two_pow_sub_one_eq_mod, Nat.shiftLeft_eq]
  omega

lemma frame_shiftRor (op : UInt32) (a : ArmState σ) (carry temp amount : UInt32) :
    Frame a (shiftRor op a carry temp amount).2 := by
  have hc := frame_clearC a
  unfold shiftRor
  dsimp only
  split
  · exact hc.trans (frame_raiseC _ _)
  · split
    · refine hc.trans (Frame.psr ?_)
      rw [or_and, shiftLeft29_low, UInt32.or_zero]
    · split
      · exact hc.trans (frame_raiseC _ _)
      · exact hc.trans (frame_raiseC _ _)

lemma frame_shift3 (op : UInt32) (a : ArmState σ) : Frame a (shift3 op a).2 := by
  have hc : Frame a (if shiftAmount op a ≠ 0 then clearC a else a) := by
    split
    · exact frame_clearC a
    · exact Frame.refl a
  unfold shift3
  dsimp only
  split
  · exact hc.trans (frame_shiftLsl _ _ _)
  · split
    · exact hc.trans (frame_shiftLsr _ _ _ _)
    · split
      · exact hc.trans (frame_shiftAsr _ _ _ _)
      · exact hc.trans (frame_shiftRor _ _ _ _ _)

/-- The operand is read with its carry and the mode stays. -/
def Operand.Carries (o : Operand σ) : Prop := ∀ op a, Frame a (o.withCarry op a).2

lemma carries_reg : (Operand.reg : Operand σ).Carries := by
  intro op a
  show Frame a (shift op a).2
  unfold shift
  split
  · exact frame_shift3 op a
  · exact Frame.refl a

lemma carries_imm : (Operand.imm : Operand σ).Carries := by
  intro op a
  show Frame a (armImmCflag op a).2
  unfold armImmCflag
  dsimp only
  split
  · exact frame_writeC _ _
  · exact Frame.refl a

/-! ## Single transfers -/

/-- The load leaves R15 and the mode alone. -/
def Load.Quiet (load : Load σ) : Prop := ∀ a addr, Moves none a (load a addr).2

/-- The store leaves R15 and the mode alone. -/
def Store.Quiet (store : Store σ) : Prop := ∀ a addr data, Moves none a (store a addr data)

def loadDest (op : UInt32) (a : ArmState σ) (load : Load σ) (addr : UInt32) : Option UInt32 :=
  if (load a addr).2.aborted then none else destOf (rd op) (load a addr).1

def writesBase (op : UInt32) : Bool := op &&& 0x1000000 == 0 || op &&& 0x200000 != 0

section Single

variable (bus : Bus σ) {op : UInt32} {a : ArmState σ}

lemma quiet_wordLoad : (wordLoad bus).Quiet := fun a _ => Moves.withWorld a _

lemma quiet_byteLoad : (byteLoad bus).Quiet := fun a _ => Moves.withWorld a _

lemma quiet_wordUserLoad : (wordUserLoad bus).Quiet := fun a _ => Moves.withWorld a _

lemma quiet_byteUserLoad : (byteUserLoad bus).Quiet := fun a _ => Moves.withWorld a _

lemma quiet_wordStore : (wordStore bus).Quiet := fun a _ _ => Moves.withWorld a _

lemma quiet_byteStore : (byteStore bus).Quiet := fun a _ _ => Moves.withWorld a _

lemma quiet_wordUserStore : (wordUserStore bus).Quiet := fun a _ _ => Moves.withWorld a _

lemma quiet_byteUserStore : (byteUserStore bus).Quiet := fun a _ _ => Moves.withWorld a _

lemma moves_writeBase (h : writesBase op = true → Free a (rn op)) (addr offset : UInt32) :
    Moves none a (writeBase op a addr offset) := by
  unfold writeBase
  unfold writesBase at h
  split
  · rename_i hpost
    exact Moves.setReg (h (by simp [hpost])) _
  · split
    · rename_i hw
      exact Moves.setReg (h (by simp [hw])) _
    · exact Moves.refl a

lemma moves_writeHalfBase (h : writesBase op = true → Free a (rn op)) (addr offset : UInt32) :
    Moves none a (writeHalfBase op a addr offset) := moves_writeBase h addr offset

lemma moves_storeSingle {store : Store σ} (hs : store.Quiet) (h : writesBase op = true → Free a (rn op)) :
    Moves none a (storeSingle op a store) := by
  have hst := hs a (transferAddr op a) (getreg a (rd op))
  unfold storeSingle
  dsimp only
  split
  · exact hst
  · exact hst.trans (moves_writeBase (fun hw => hst.free (h hw)) _ _)

lemma moves_loadSingle {load : Load σ} (hl : load.Quiet) (h : writesBase op = true → Free a (rn op)) :
    Moves (loadDest op a load (transferAddr op a)) a (loadSingle op a load) := by
  have hld := hl a (transferAddr op a)
  have hbase := hld.trans (moves_writeBase (fun hw => hld.free (h hw)) (transferAddr op a)
    (transferOffset op a))
  have hworld : ∀ (t : ArmState σ) addr offset, (writeBase op t addr offset).aborted = t.aborted := by
    intro t addr offset
    unfold writeBase
    split
    · rfl
    · split <;> rfl
  unfold loadSingle loadDest
  dsimp only
  cases hab : (load a (transferAddr op a)).2.aborted with
  | true =>
    simp only [Bool.and_true, hworld, hab, if_true]
    split
    · exact hld
    · exact hbase
  | false =>
    simp only [Bool.and_false, hworld, hab, Bool.false_eq_true, if_false]
    exact hbase.trans (moves_loadreg _ (rd_lt op) _)

lemma moves_storeUser {store : Store σ} (hs : store.Quiet) (h : Free a (rn op)) :
    Moves none a (storeUser op a store) := by
  have hst := hs a (getaddr a (rn op)) (getreg a (rd op))
  unfold storeUser
  dsimp only
  split
  · exact hst
  · exact hst.trans (Moves.setReg (hst.free h) _)

lemma moves_loadUser {load : Load σ} (hl : load.Quiet) (h : Free a (rn op)) :
    Moves (loadDest op a load (getaddr a (rn op))) a (loadUser op a load) := by
  have hld := hl a (getaddr a (rn op))
  have hbase : ∀ v, Moves none a ((load a (getaddr a (rn op))).2.setReg (rn op) v) := fun v =>
    hld.trans (Moves.setReg (hld.free h) v)
  have hworld : ∀ (t : ArmState σ) v, (t.setReg (rn op) v).aborted = t.aborted := fun _ _ => rfl
  unfold loadUser loadDest
  dsimp only
  cases hab : (load a (getaddr a (rn op))).2.aborted with
  | true =>
    simp only [Bool.and_true, hworld, hab, if_true]
    split
    · exact hld
    · exact hbase _
  | false =>
    simp only [Bool.and_false, hworld, hab, Bool.false_eq_true, if_false]
    exact (hbase _).trans (moves_loadreg _ (rd_lt op) _)

lemma moves_loadHalf {load : Load σ} (hl : load.Quiet) (h : writesBase op = true → Free a (rn op)) :
    Moves (loadDest op a load (halfAddr op a)) a (loadHalf op a load) := by
  have hld := hl a (halfAddr op a)
  have hbase := hld.trans (moves_writeHalfBase (fun hw => hld.free (h hw)) (halfAddr op a)
    (halfOffset op a))
  unfold loadHalf loadDest
  dsimp only
  split
  · exact hld
  · exact hbase.trans (moves_loadreg _ (rd_lt op) _)

lemma moves_armStrh (h : writesBase op = true → Free a (rn op)) : Moves none a (armStrh bus op a) := by
  have hst : ∀ w, Moves none a (a.withWorld w) := Moves.withWorld a
  unfold armStrh
  dsimp only
  split
  · exact hst _
  · exact (hst _).trans (moves_writeHalfBase (fun hw => (hst _).free (h hw)) _ _)

lemma moves_swapOp {load : Load σ} {store : Store σ} (hl : load.Quiet) (hs : store.Quiet) :
    Moves none a (swapOp op a load store) := by
  unfold swapOp
  split
  · exact Moves.refl a
  · rename_i hrd
    have hld := hl a (getaddr a (rn op))
    dsimp only
    split
    · exact hld
    · have hst := hld.trans (hs (load a (getaddr a (rn op))).2 (getaddr a (rn op))
        (getreg a (rm op)))
      split
      · exact hst
      · have hreg := moves_loadreg (store (load a (getaddr a (rn op))).2 (getaddr a (rn op))
          (getreg a (rm op))) (rd_lt op) (load a (getaddr a (rn op))).1
        rw [destOf, if_neg hrd] at hreg
        exact hst.trans hreg

end Single

/-! ## Multiple transfers -/

/-- `usrregs` points at registers below R15. -/
def UserPtrs (a : ArmState σ) : Prop := ∀ r < 15, a.usrregs r = .reg r ∨ a.usrregs r = .user r

lemma userPtrs_updatemode (a : ArmState σ) (m : UInt32) : UserPtrs (updatemode a m) := by
  have hload : ∀ (t : ArmState σ) r, r < 15 →
      (loadBank t m).usrregs r = .reg r ∨ (loadBank t m).usrregs r = .user r := by
    intro t r hr
    unfold loadBank
    split <;> simp only [loadLink, copyRegs] <;> grind
  have hplace : ∀ (t : ArmState σ) om, (placePsr t om).usrregs = t.usrregs := by
    intro t om
    unfold placePsr
    split <;> dsimp only <;> split <;> rfl
  intro r hr
  rw [updatemode_eq]
  show (placePsr (rebanked a m) a.mode).usrregs r = _ ∨ (placePsr (rebanked a m) a.mode).usrregs r = _
  rw [hplace]
  exact hload _ r hr

def ldmDest (bus : Bus σ) (op : UInt32) (a : ArmState σ) (address : UInt32) : Option UInt32 :=
  if listsR15 op && !(fetched bus op a address).2.aborted &&
      !(fetchedR15 bus op a address).2.aborted then
    some (fetchedR15 bus op a address).1
  else none

section Multiple

variable (bus : Bus σ) {op : UInt32} {a : ArmState σ} (address writeback : UInt32)

lemma writesBack_free (h : writesBack op = true) : Free a (rn op) := by
  simp only [writesBack, Bool.and_eq_true, bne_iff_ne, ne_eq] at h
  exact free_of (rn_lt op) (Or.inl h.2)

lemma moves_of_baseOnly {t : ArmState σ} (h : BaseOnly op a t) : Moves none a t := by
  obtain ⟨w, rfl | ⟨hn, v, rfl⟩⟩ := h
  · exact Moves.withWorld a w
  · exact (Moves.setReg (free_of (rn_lt op) (Or.inl hn)) v).trans (Moves.withWorld _ w)

lemma moves_withBase : Moves none a (withBase op a writeback) := by
  unfold withBase
  split
  · rename_i h
    exact Moves.setReg (writesBack_free h) _
  · exact Moves.refl a

lemma moves_putUser (hu : UserPtrs a) {c : Nat} (hc : c < 15) (v : UInt32) :
    Moves none a (putUser a c v) := by
  unfold putUser
  rcases hu c hc with h | h <;> rw [h]
  · exact Moves.setReg (free_of (by omega) (Or.inl (by omega))) v
  · exact ⟨⟨rfl, rfl, rfl, rfl, rfl, rfl, rfl⟩, fun _ => rfl, fun _ => rfl⟩

/-- Putting a register below R15 leaves R15 and the mode alone. -/
def Below (put : ArmState σ → Nat → UInt32 → ArmState σ) (a : ArmState σ) : Prop :=
  ∀ t, SameMode a t → ∀ c < 15, ∀ v, Moves none t (put t c v)

lemma below_setReg : Below ArmState.setReg a := fun _ _ c hc v =>
  Moves.setReg (free_of (by omega) (Or.inl (by omega))) v

lemma below_putUser (hu : UserPtrs a) : Below putUser a := fun t ht c hc v =>
  moves_putUser (fun r hr => by rw [ht.usrregs]; exact hu r hr) hc v

variable {put : ArmState σ → Nat → UInt32 → ArmState σ} (hput : Below put a)
include hput

lemma moves_putAll {ws : List (Nat × UInt32)} (hws : ∀ p ∈ ws, p.1 < 15) {t : ArmState σ}
    (ht : Moves none a t) : Moves none a (putAll put t ws) := by
  induction ws generalizing t with
  | nil => exact ht
  | cons p ws ih =>
    have hp := hput t ht.toSameMode p.1 (hws p List.mem_cons_self) p.2
    exact ih (fun q hq => hws q (List.mem_cons_of_mem _ hq)) (ht.trans hp)

lemma moves_loaded : Moves none a (loaded bus op a put address writeback) := by
  have hbelow : ∀ p ∈ (fetched bus op a address).1, p.1 < 15 := fun p hp =>
    mem_regList (mem_of_mem_loadWords bus hp)
  have hbase : Moves none a (withBase op a writeback) := moves_withBase writeback
  exact (moves_putAll hput hbelow hbase).trans (Moves.withWorld _ _)

omit hput in
lemma moves_loadAborted {t : ArmState σ} (h : Moves none a t) :
    Moves none a (loadAborted op t (a.reg (rn op)) writeback) := by
  unfold loadAborted
  split
  · rename_i hw
    simp only [Bool.and_eq_true] at hw
    exact h.trans (Moves.setReg (h.free (writesBack_free hw.2)) _)
  · by_cases h15 : rn op = 15
    · refine ⟨h.toSameMode.trans (SameMode.setReg t _ _), fun _ => ?_, fun h32 => ?_⟩
      · rw [h15, setReg_self]
        rfl
      · rw [h15, setReg_of_ne t (by decide)]
        exact h.r16 h32
    · exact h.trans (Moves.setReg (h.free (free_of (rn_lt op) (Or.inl h15))) _)

variable (hp : Placing put)
include hp

lemma moves_loadMultiple : Moves none a (loadMultiple bus op a put address writeback
    fun _ a => (false, a)) := by
  have hloaded : Moves none a (loaded bus op a put address writeback) :=
    moves_loaded bus address writeback hput
  cases hab : (fetched bus op a address).2.aborted with
  | true =>
    rw [loadMultiple_aborted hp hab]
    exact moves_loadAborted writeback hloaded
  | false =>
    rw [loadMultiple_done hp hab]
    exact hloaded

lemma loadMultiple_r15_cases (place : ArmState σ → UInt32 → ArmState σ) (hr15 : listsR15 op = true) :
    (ldmDest bus op a address = none ∧
      Moves none a (loadMultiple bus op a put address writeback (loadR15 bus place))) ∨
    ∃ t v, ldmDest bus op a address = some v ∧ Moves none a t ∧
      loadMultiple bus op a put address writeback (loadR15 bus place) = place t v := by
  have hloaded : Moves none a (loaded bus op a put address writeback) :=
    moves_loaded bus address writeback hput
  have hworld : ∀ w, Moves none a ((loaded bus op a put address writeback).withWorld w) :=
    fun w => hloaded.trans (Moves.withWorld _ w)
  cases hab : (fetched bus op a address).2.aborted with
  | true =>
    refine Or.inl ⟨by simp [ldmDest, hab], ?_⟩
    rw [loadMultiple_aborted hp hab]
    exact moves_loadAborted writeback hloaded
  | false =>
    cases hab' : (fetchedR15 bus op a address).2.aborted with
    | true =>
      refine Or.inl ⟨by simp [ldmDest, hab'], ?_⟩
      rw [loadMultiple_r15_aborted hp hab hab']
      exact moves_loadAborted writeback (hworld _)
    | false =>
      have hdest : ldmDest bus op a address = some (fetchedR15 bus op a address).1 := by
        simp [ldmDest, hr15, hab, hab']
      exact Or.inr ⟨_, _, hdest, hworld _, loadMultiple_r15 hp hab hab'⟩

omit hput hp in
lemma moves_armLoadMultiple : Moves (ldmDest bus op a address) a
    (armLoadMultiple bus op a address writeback) := by
  unfold armLoadMultiple
  cases hr15 : listsR15 op with
  | false =>
    simp only [Bool.false_eq_true, if_false]
    have hdest : ldmDest bus op a address = none := by simp [ldmDest, hr15]
    rw [hdest]
    exact moves_loadMultiple bus address writeback below_setReg placing_setReg
  | true =>
    simp only [if_true]
    rcases loadMultiple_r15_cases bus address writeback below_setReg placing_setReg branchTo hr15
      with ⟨hdest, h⟩ | ⟨t, v, hdest, ht, heq⟩
    · rw [hdest]
      exact h
    · rw [hdest]
      refine ht.trans ?_
      rw [show loadMultiple bus op a ArmState.setReg address writeback
        (fun addr a => loadR15 bus branchTo addr a) = branchTo t v from heq]
      exact moves_branch rfl

end Multiple

end RpcEmu.Arm
