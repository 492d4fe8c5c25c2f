import RpcEmu.Arm.Banks
import RpcEmu.Arm.Outcomes

/-!
# The mode and the status

The mode is in `arm.mode` and in the status, and `ModeAgrees` says that the two are the same and that
`memmode`, `r15_mask`, `mmask` and `cpsr` follow from it.

* **An exception** makes them agree whatever was before: it writes both.
* **`updatemode`** makes them agree where the new mode is one that the status can show (`shown`): R15
  has two bits for it.
* **Everything else** keeps what there is, as long as it leaves the two bits of R15 alone in a 26-bit
  mode.

The steps that do not meet this are named by `Sound`; in a run without them the two agree after every
step.
-/

namespace RpcEmu.Arm

open Masks Pages

variable {σ : Type}

/-! ## The invariant -/

/-- **The mode is that of the status**, and the rest follows it. -/
structure ModeAgrees (a : ArmState σ) : Prop where
  status : a.mode = if armMode32 a.mode then a.reg 16 &&& 0x1f else a.reg 15 &&& 3
  follows : Follows a

structure Settled (a : ArmState σ) : Prop extends ModeAgrees a where
  userPtrs : UserPtrs a

def shown (m : UInt32) : Bool := m < 4 || armMode32 m

lemma follows_of_sameMode {a t : ArmState σ} (h : SameMode a t) (ha : Follows a) : Follows t where
  mmask := by rw [h.mmask, h.mode, ha.mmask]
  r15Mask := by rw [h.r15Mask, h.mode, ha.r15Mask]
  cpsr := by rw [h.cpsr, h.mode, ha.cpsr]
  memmode := by rw [h.memmode, h.mode, ha.memmode]

lemma follows_setReg {a : ArmState σ} (h : Follows a) (r : Nat) (v : UInt32) :
    Follows (a.setReg r v) := follows_of_sameMode (SameMode.setReg a r v) h

namespace Settled

lemma frame {a t : ArmState σ} (ha : Settled a) (h : Frame a t) : Settled t where
  status := by
    rw [h.mode]
    by_cases h32 : armMode32 a.mode = true
    · rw [if_pos h32, h.r16 h32]
      exact ha.status.trans (if_pos h32)
    · rw [if_neg h32, h.r15 (by simpa using h32)]
      exact ha.status.trans (if_neg h32)
  follows := follows_of_sameMode h.toSameMode ha.follows
  userPtrs r hr := by
    rw [h.usrregs]
    exact ha.userPtrs r hr

lemma r15Mask_low {a : ArmState σ} (h : Follows a) : a.r15Mask &&& 3 = 0 := by
  rw [h.r15Mask]
  split <;> decide

lemma moves {a t : ArmState σ} (ha : Settled a) {dest : Option UInt32} (h : Moves dest a t) :
    Settled t := ha.frame (h.frame (r15Mask_low ha.follows))

end Settled

/-! ## Changing mode -/

lemma and_of_lt {m : UInt32} (h : m < 4) : m &&& 3 = m := by
  apply UInt32.toNat_inj.mp
  have hlt : m.toNat < 4 := h
  rw [UInt32.toNat_and]
  show m.toNat &&& 2 ^ 2 - 1 = m.toNat
  rw [Nat.and_two_pow_sub_one_eq_mod]
  omega

lemma shiftLeft20_low (x : UInt32) : (x <<< 20) &&& 3 = 0 := by
  apply UInt32.toNat_inj.mp
  rw [UInt32.toNat_and, UInt32.toNat_shiftLeft]
  show (x.toNat <<< 20) % 2 ^ 32 &&& 2 ^ 2 - 1 = 0
  rw [Nat.and_two_pow_sub_one_eq_mod, Nat.shiftLeft_eq]
  omega

lemma movedR15_low {om m : UInt32} (hom : armMode32 om = true) (hm : armMode32 m = false)
    (r15 r16 : UInt32) : movedR15 om m r15 r16 &&& 3 = m &&& 3 := by
  simp only [movedR15, hom, hm, Bool.false_eq_true, if_false, if_true]
  rw [or_and, or_and, or_and, shiftLeft20_low, and_and (show (0x3fffffc : UInt32) &&& 3 = 0 by decide),
    and_and (show (3 : UInt32) &&& 3 = 3 by decide),
    and_and (show (0xf0000000 : UInt32) &&& 3 = 0 by decide)]
  simp

lemma disables_low (x : UInt32) : ((x &&& (0xc000000 : UInt32)) >>> 20) &&& 0x1f = 0 := by
  apply UInt32.toNat_inj.mp
  rw [UInt32.toNat_and, UInt32.toNat_shiftRight, UInt32.toNat_and]
  apply Nat.eq_of_testBit_eq
  intro i
  have hmask : ∀ j < 5, Nat.testBit 0xc000000 (20 + j) = false := by decide
  have hfive : (0x1f : UInt32).toNat = 2 ^ 5 - 1 := rfl
  simp only [Nat.testBit_and, Nat.testBit_shiftRight, hfive, Nat.testBit_two_pow_sub_one,
    UInt32.toNat_zero, Nat.zero_testBit]
  by_cases hi : i < 5
  · have h := hmask i hi
    simp only [show (20 : UInt32).toNat % 32 = 20 from rfl, show (0xc000000 : UInt32).toNat = 0xc000000
      from rfl, h, Bool.and_false, Bool.false_and]
  · simp [hi]

lemma movedR16_low {om m : UInt32} (hom : armMode32 om = false) (hm : armMode32 m = true)
    (r15 r16 : UInt32) : movedR16 om m r15 r16 &&& 0x1f = m &&& 0x1f := by
  simp only [movedR16, hom, hm, Bool.false_eq_true, if_false, if_true]
  rw [or_and, or_and, disables_low, and_and (show (0xf0000000 : UInt32) &&& 0x1f = 0 by decide)]
  simp

/-- **`updatemode`**, where the status has the mode already or gets it. -/
lemma settled_updatemode (a : ArmState σ) {m : UInt32}
    (h : m = if armMode32 m then movedR16 a.mode m (a.reg 15) (a.reg 16) &&& 0x1f
      else movedR15 a.mode m (a.reg 15) (a.reg 16) &&& 3) : Settled (updatemode a m) where
  status := by
    rw [updatemode_mode, updatemode_r15, updatemode_r16]
    exact h
  follows := follows_updatemode a m
  userPtrs := userPtrs_updatemode a m

lemma low_lt (x : UInt32) : x &&& 3 < 4 := by
  show (x &&& 3).toNat < 4
  rw [UInt32.toNat_and]
  exact Nat.and_lt_two_pow _ (n := 2) (by decide)

lemma armMode32_low (x : UInt32) : armMode32 (x &&& 3) = false := by
  rw [armMode32, and_and (show (3 : UInt32) &&& 0x10 = 0 by decide)]
  simp

lemma settled_change {a : ArmState σ} {m : UInt32} (hshown : shown m = true)
    (hm : m &&& 0x1f = m) (h16 : armMode32 a.mode = true → a.reg 16 &&& 0x1f = m)
    (h15 : armMode32 a.mode = false → armMode32 m = false → a.reg 15 &&& 3 = m) :
    Settled (updatemode a m) := by
  apply settled_updatemode
  cases hom : armMode32 a.mode with
  | true =>
    cases hnm : armMode32 m with
    | true => simp only [movedR16, hom, hnm, if_true, h16 hom]
    | false =>
      have hlt : m < 4 := by simpa [shown, hnm] using hshown
      simp only [Bool.false_eq_true, if_false]
      rw [movedR15_low hom hnm, and_of_lt hlt]
  | false =>
    cases hnm : armMode32 m with
    | true =>
      simp only [if_true]
      rw [movedR16_low hom hnm, hm]
    | false => simp only [movedR15, hom, hnm, Bool.false_eq_true, if_false, h15 hom hnm]

lemma settled_followPsr {a : ArmState σ} (hf : Follows a) (hu : UserPtrs a)
    (h : armMode32 a.mode = true → shown (a.reg 16 &&& 0x1f) = true) : Settled (followPsr a) := by
  unfold followPsr
  cases h32 : armMode32 a.mode with
  | true =>
    have hpsr : a.psr &&& a.mmask = a.reg 16 &&& 0x1f := by
      rw [ArmState.psr, hf.cpsr, hf.mmask, if_pos h32, if_pos h32]
    rw [hpsr]
    split
    · refine settled_change (h h32) ?_ (fun _ => rfl) fun h26 => ?_
      · rw [UInt32.and_assoc, UInt32.and_self]
      · rw [h32] at h26
        exact absurd h26 (by decide)
    · rename_i hsame
      refine ⟨⟨?_, hf⟩, hu⟩
      rw [if_pos h32]
      exact (not_not.mp hsame).symm
  | false =>
    have hpsr : a.psr &&& a.mmask = a.reg 15 &&& 3 := by
      rw [ArmState.psr, hf.cpsr, hf.mmask, if_neg (by simp [h32]), if_neg (by simp [h32])]
    rw [hpsr]
    split
    · refine settled_change ?_ ?_ (fun h32' => ?_) fun _ _ => rfl
      · simp [shown, low_lt]
      · rw [and_and (show (3 : UInt32) &&& 0x1f = 3 by decide)]
      · rw [h32] at h32'
        exact absurd h32' (by decide)
    · rename_i hsame
      refine ⟨⟨?_, hf⟩, hu⟩
      rw [if_neg (by simp [h32])]
      exact (not_not.mp hsame).symm

/-! ## Writes of the status -/

def restoreShown (a : ArmState σ) : Bool :=
  !(armMode32 a.mode && armModePriv a.mode) || shown (a.spsr (a.mode &&& 0xf).toNat &&& 0x1f)

lemma restoreSpsr_sameMode (a : ArmState σ) : SameMode a (restoreSpsr a) := by
  unfold restoreSpsr
  split
  · exact SameMode.setReg a 16 _
  · exact SameMode.refl a

lemma restoreSpsr_shown {a : ArmState σ} (hp : armModePriv a.mode = true)
    (h : restoreShown a = true) (h32 : armMode32 a.mode = true) :
    shown ((restoreSpsr a).reg 16 &&& 0x1f) = true := by
  rw [restoreSpsr, if_pos h32, setReg_self]
  simpa [restoreShown, h32, hp] using h

lemma Settled.armWriteR15 {a : ArmState σ} (ha : Settled a) (h : restoreShown a = true)
    (dest : UInt32) : Settled (armWriteR15 a dest) := by
  unfold Arm.armWriteR15
  dsimp only
  set t := a.setReg 15 ((a.reg 15 &&& ~~~writeR15Mask a.mode) |||
    ((dest + 4) &&& writeR15Mask a.mode)) with ht
  have hsame : SameMode a t := SameMode.setReg a 15 _
  cases hp : armModePriv a.mode with
  | true =>
    rw [if_pos (show armModePriv t.mode = true from hp)]
    have hrestored := hsame.trans (restoreSpsr_sameMode t)
    refine settled_followPsr (follows_of_sameMode hrestored ha.follows) (fun r hr => ?_) fun h32 => ?_
    · rw [hrestored.usrregs]
      exact ha.userPtrs r hr
    · rw [hrestored.mode] at h32
      exact restoreSpsr_shown hp h h32
  | false =>
    rw [if_neg (by rw [show t.mode = a.mode from rfl, hp]; decide)]
    -- User mode writes the address, and the flags where they are in R15
    refine ha.frame ⟨hsame, fun h26 => ?_, fun _ => ?_⟩
    · have hmask : writeR15Mask a.mode &&& 3 = 0 := by
        rw [writeR15Mask, h26, hp]
        decide
      rw [ht, setReg_self]
      exact put_and_outside hmask _ _
    · rw [ht, setReg_of_ne a (by decide)]

lemma Settled.armCompareRd15 {a : ArmState σ} (ha : Settled a) (h : restoreShown a = true)
    (dest : UInt32) : Settled (armCompareRd15 a dest) := by
  unfold Arm.armCompareRd15
  cases h32 : armMode32 a.mode with
  | true =>
    simp only [if_true]
    cases hp : armModePriv a.mode with
    | true =>
      have hs := restoreSpsr_sameMode a
      refine settled_followPsr (follows_of_sameMode hs ha.follows) (fun r hr => ?_) fun _ => ?_
      · rw [if_pos rfl, hs.usrregs]
        exact ha.userPtrs r hr
      · exact restoreSpsr_shown hp h h32
    | false =>
      refine settled_followPsr ha.follows ha.userPtrs fun _ => ?_
      have hst := ha.status
      rw [if_pos h32] at hst
      simp only [Bool.false_eq_true, if_false]
      rw [← hst, shown, h32, Bool.or_true]
  | false =>
    simp only [Bool.false_eq_true, if_false]
    refine settled_followPsr (follows_setReg ha.follows 15 _) ha.userPtrs fun h32' => ?_
    rw [show (a.setReg 15 _).mode = a.mode from rfl, h32] at h32'
    exact absurd h32' (by decide)

def writesControl (op : UInt32) : Bool := op &&& 0x10000 != 0

lemma writesControl_iff (op : UInt32) : ((op >>> 16) &&& 0xf) &&& 1 ≠ 0 ↔ writesControl op = true := by
  have hone := and_single (m := 1) (i := 0) (by decide) ((op >>> 16) &&& 0xf)
  have hctl := and_single (m := 0x10000) (i := 16) (by decide) op
  have hbit : bit ((op >>> 16) &&& 0xf) 0 = bit op 16 := by
    rw [bit_and, bit_shiftRight op (by decide)]
    simp [show bit 0xf 0 = true by decide]
  rw [writesControl, hone, hctl, hbit]
  cases bit op 16 <;> decide

lemma fieldMask_low (op : UInt32) : msrlookup ((op >>> 16) &&& 0xf) &&& psrBitsValid &&& 0x1f =
    if writesControl op then 0x1f else 0 := by
  have hfields : ∀ k : Fin 16, msrlookup (UInt32.ofNat k) &&& psrBitsValid &&& 0x1f =
      if UInt32.ofNat k &&& 1 ≠ 0 then 0x1f else 0 := by decide
  have hk := hfields ⟨_, field_lt op 16⟩
  rw [UInt32.ofNat_toNat] at hk
  rw [hk]
  simp only [writesControl_iff]

lemma cpsrWritten_r16 (a : ArmState σ) (op value : UInt32) :
    (cpsrWritten a op value).reg 16 &&& 0x1f =
      if writesControl op then value &&& 0x1f else a.reg 16 &&& 0x1f := by
  set fieldMask := msrlookup ((op >>> 16) &&& 0xf) &&& psrBitsValid with hmask
  have hcopy : ∀ (t : ArmState σ), (copyCpsr t op value).reg 16 = t.reg 16 := by
    intro t
    unfold copyCpsr
    dsimp only
    split <;> split <;> simp [ArmState.setReg]
  have hreg : (cpsrWritten a op value).reg 16 = put fieldMask (a.reg 16) value := by
    unfold cpsrWritten
    dsimp only
    split
    · exact setReg_self a 16 _
    · rw [hcopy]
      exact setReg_self a 16 _
  rw [hreg]
  cases hc : writesControl op with
  | true =>
    rw [if_pos rfl]
    refine put_and_inside ?_ _ _
    rw [hmask, fieldMask_low, hc, if_pos rfl]
  | false =>
    rw [if_neg (by decide)]
    refine put_and_outside ?_ _ _
    rw [hmask, fieldMask_low, hc, if_neg (by decide)]

lemma cpsrWritten_r15 {a : ArmState σ} (h26 : armMode32 a.mode = false) (op value : UInt32) :
    (cpsrWritten a op value).reg 15 &&& 3 =
      if writesControl op then value &&& 3 else a.reg 15 &&& 3 := by
  set t := a.setReg 16 ((a.reg 16 &&& ~~~(msrlookup ((op >>> 16) &&& 0xf) &&& psrBitsValid)) |||
    (value &&& (msrlookup ((op >>> 16) &&& 0xf) &&& psrBitsValid))) with ht
  have hwritten : cpsrWritten a op value = copyCpsr t op value := by
    unfold cpsrWritten
    exact if_neg (by rw [show (a.setReg 16 _).mode = a.mode from rfl, h26]; decide)
  set u := if op &&& 0x80000 ≠ 0 then
      t.setReg 15 ((t.reg 15 &&& ~~~0xf0000000) ||| (value &&& 0xf0000000))
    else t with hu
  have hflags : u.reg 15 &&& 3 = a.reg 15 &&& 3 := by
    have h15 : t.reg 15 = a.reg 15 := setReg_of_ne a (by decide) _
    rw [hu]
    split
    · rw [setReg_self, h15]
      exact put_and_outside (by decide) _ _
    · rw [h15]
  have hcopy : copyCpsr t op value = if op &&& 0x10000 ≠ 0 then
      u.setReg 15 ((u.reg 15 &&& ~~~(0x0c000003 : UInt32)) ||| (value &&& (3 : UInt32)) |||
        ((value &&& (0xc0 : UInt32)) <<< 20))
    else u := rfl
  rw [hwritten, hcopy]
  by_cases hc : op &&& 0x10000 ≠ 0
  · rw [if_pos hc, if_pos (by simpa [writesControl] using hc), setReg_self, or_and, or_and,
      shiftLeft20_low, and_and (show ~~~(0x0c000003 : UInt32) &&& 3 = 0 by decide),
      and_and (show (3 : UInt32) &&& 3 = 3 by decide)]
    simp
  · rw [if_neg hc, if_neg (by simpa [writesControl] using hc)]
    exact hflags

/-- The mode that MSR asks for is one that the status can show: the control field of the value, and
where that is not written the CPSR's own, which a 26-bit mode does not keep up. -/
def msrShown (a : ArmState σ) (op value : UInt32) : Bool :=
  if writesControl (msrFields a op) then shown (value &&& 0x1f)
  else armMode32 a.mode || a.reg 16 &&& 0x1f == a.mode || armMode32 (a.reg 16 &&& 0x1f)

lemma cpsrWritten_sameMode (a : ArmState σ) (op value : UInt32) :
    SameMode a (cpsrWritten a op value) := by
  unfold cpsrWritten
  dsimp only
  split
  · exact SameMode.setReg a 16 _
  · unfold copyCpsr
    split <;> split <;> exact ⟨rfl, rfl, rfl, rfl, rfl, rfl, rfl⟩

lemma low_of_mode {value m : UInt32} (h : value &&& 0x1f = m) (hlt : m < 4) : value &&& 3 = m := by
  rw [← and_of_lt hlt, ← h, and_and (show (0x1f : UInt32) &&& 3 = 3 by decide)]

lemma Settled.armWriteCpsr {a : ArmState σ} (ha : Settled a) {op value : UInt32}
    (h : msrShown a op value = true) : Settled (armWriteCpsr a op value) := by
  unfold Arm.armWriteCpsr
  dsimp only
  set t := cpsrWritten a (msrFields a op) value with ht
  have hsame : SameMode a t := cpsrWritten_sameMode a _ value
  have h16 := cpsrWritten_r16 a (msrFields a op) value
  rw [← ht] at h16
  have h15 : armMode32 a.mode = false → t.reg 15 &&& 3 =
      if writesControl (msrFields a op) then value &&& 3 else a.reg 15 &&& 3 :=
    fun h26 => cpsrWritten_r15 h26 _ value
  have hold : armMode32 a.mode = false → a.mode < 4 ∧ a.reg 15 &&& 3 = a.mode := by
    intro h26
    have hst := ha.status
    rw [if_neg (by simp [h26])] at hst
    refine ⟨?_, hst.symm⟩
    rw [hst]
    exact low_lt _
  split
  · rename_i hne
    rw [hsame.mode] at hne
    refine settled_change ?_ ?_ (fun _ => rfl) fun h26 hm => ?_
    · cases hc : writesControl (msrFields a op) with
      | true =>
        rw [hc, if_pos rfl] at h16
        rw [h16]
        simpa [msrShown, hc] using h
      | false =>
        rw [hc, if_neg (by decide)] at h16
        rw [h16] at hne ⊢
        cases h32 : armMode32 a.mode with
        | true =>
          have hst := ha.status
          rw [if_pos h32] at hst
          exact absurd hst.symm hne
        | false =>
          simp only [msrShown, hc, h32, Bool.false_eq_true, if_false, Bool.false_or,
            Bool.or_eq_true, beq_iff_eq] at h
          rw [shown, h.resolve_left hne, Bool.or_true]
    · rw [UInt32.and_assoc, UInt32.and_self]
    · rw [hsame.mode] at h26
      rw [h15 h26]
      cases hc : writesControl (msrFields a op) with
      | true =>
        rw [hc, if_pos rfl] at h16
        have hshown : shown (value &&& 0x1f) = true := by simpa [msrShown, hc] using h
        rw [h16] at hm ⊢
        have hlt : value &&& 0x1f < 4 := by simpa [shown, hm] using hshown
        rw [if_pos rfl]
        exact low_of_mode rfl hlt
      | false =>
        rw [hc, if_neg (by decide)] at h16
        rw [h16] at hm hne
        simp only [msrShown, hc, h26, hm, Bool.false_eq_true, if_false, Bool.false_or,
          Bool.or_false, beq_iff_eq] at h
        exact absurd h hne
  · rename_i heq
    have hm : t.reg 16 &&& 0x1f = a.mode := (not_not.mp heq).trans hsame.mode
    refine ⟨⟨?_, follows_of_sameMode hsame ha.follows⟩, fun r hr => ?_⟩
    · rw [hsame.mode]
      cases h32 : armMode32 a.mode with
      | true => rw [if_pos rfl, hm]
      | false =>
        obtain ⟨hlt, hst⟩ := hold h32
        rw [if_neg (by decide), h15 h32]
        split
        · rename_i hc
          rw [hc, if_pos rfl] at h16
          exact (low_of_mode (h16.symm.trans hm) hlt).symm
        · exact hst.symm
    · rw [hsame.usrregs]
      exact ha.userPtrs r hr

/-! ## Exceptions -/

def isExceptionMode (m : UInt32) : Bool := [fiq, irq, supervisor, abort, undefined].contains m

lemma settled_setReg {a : ArmState σ} (ha : Settled a) {r : Nat} (hr : r < 15) (v : UInt32) :
    Settled (a.setReg r v) :=
  ha.frame (Moves.setReg (free_of (by omega) (Or.inl (by omega))) v).still

lemma settled_entered {t : ArmState σ} (hf : Follows t) (hu : UserPtrs t) {spsr : Nat → UInt32}
    {reg : Nat → UInt32}
    (h : t.mode = if armMode32 t.mode then reg 16 &&& 0x1f else reg 15 &&& 3) :
    Settled { t with spsr := spsr, reg := reg } :=
  ⟨⟨h, ⟨hf.mmask, hf.r15Mask, hf.cpsr, hf.memmode⟩⟩, hu⟩

/-- **An exception** writes the mode to both places. -/
lemma settled_exception (a : ArmState σ) {mmode address : UInt32} (hm : isExceptionMode mmode = true)
    (haddr : address &&& 3 = 0) (diff : UInt32) : Settled (exception a mmode address diff) := by
  have hmodes : mmode = 1 ∨ mmode = 2 ∨ mmode = 3 ∨ mmode = 7 ∨ mmode = 11 := by
    simpa [isExceptionMode, fiq, irq, supervisor, abort, undefined] using hm
  have hmm : armMode32 (0x10 ||| mmode) = true ∧ (0x10 ||| mmode) &&& 0x1f = 0x10 ||| mmode := by
    rcases hmodes with rfl | rfl | rfl | rfl | rfl <;> decide
  have hdis : (if mmode = fiq then 0x80 ||| 0x40 else (0x80 : UInt32)) &&& 0x1f = 0 := by
    split <;> decide
  unfold exception
  dsimp only
  generalize (if mmode = fiq then 0x80 ||| 0x40 else (0x80 : UInt32)) = disable at hdis ⊢
  split
  · -- a 32-bit mode: the whole field of the CPSR is written
    have hf := follows_updatemode { a with spsr := Function.update a.spsr mmode.toNat (a.reg 16) }
      (0x10 ||| mmode)
    have hu := userPtrs_updatemode { a with spsr := Function.update a.spsr mmode.toNat (a.reg 16) }
      (0x10 ||| mmode)
    have hmode := updatemode_mode { a with spsr := Function.update a.spsr mmode.toNat (a.reg 16) }
      (0x10 ||| mmode)
    generalize updatemode { a with spsr := Function.update a.spsr mmode.toNat (a.reg 16) }
      (0x10 ||| mmode) = t at hf hu hmode ⊢
    refine settled_entered hf hu ?_
    rw [hmode, if_pos hmm.1]
    simp only [ArmState.setReg, Function.update_self, ne_eq, Nat.reduceEqDiff,
      not_false_eq_true, Function.update_of_ne]
    rw [or_and, or_and, hdis, hmm.2, and_and (show ~~~(0x1f : UInt32) &&& 0x1f = 0 by decide)]
    simp
  · rename_i h32
    rw [Bool.not_eq_true] at h32
    split
    · -- a 26-bit mode, and the exception goes to one of 32 bits
      have hsettled : Settled (updatemode a (0x10 ||| mmode)) := by
        refine settled_change (by simp [shown, hmm.1]) hmm.2 (fun h => ?_) fun _ h => ?_
        · rw [h32] at h
          exact absurd h (by decide)
        · rw [hmm.1] at h
          exact absurd h (by decide)
      have hmode := updatemode_mode a (0x10 ||| mmode)
      generalize updatemode a (0x10 ||| mmode) = t at hsettled hmode ⊢
      have hst := hsettled.status
      rw [hmode, if_pos hmm.1] at hst
      refine settled_entered hsettled.follows hsettled.userPtrs ?_
      rw [hmode, if_pos hmm.1]
      simp only [ArmState.setReg, Function.update_self, ne_eq, Nat.reduceEqDiff,
        not_false_eq_true, Function.update_of_ne]
      rw [or_and, hdis, UInt32.or_zero]
      exact hst
    · -- 26-bit modes only
      have hf := follows_updatemode a (if supervisor ≤ mmode then supervisor else mmode)
      have hu := userPtrs_updatemode a (if supervisor ≤ mmode then supervisor else mmode)
      have hmode := updatemode_mode a (if supervisor ≤ mmode then supervisor else mmode)
      have hnew : armMode32 (if supervisor ≤ mmode then supervisor else mmode) = false ∧
          (if supervisor ≤ mmode then supervisor else mmode) &&& 3 =
            if supervisor ≤ mmode then supervisor else mmode := by
        rcases hmodes with rfl | rfl | rfl | rfl | rfl <;> decide
      generalize (if supervisor ≤ mmode then supervisor else mmode) = m at hf hu hmode hnew ⊢
      generalize updatemode a m = t at hf hu hmode ⊢
      refine settled_entered hf hu ?_
      rw [hmode, if_neg (by rw [hnew.1]; decide)]
      simp only [ArmState.setReg, Function.update_self, ne_eq, Nat.reduceEqDiff,
        not_false_eq_true, Function.update_of_ne]
      rw [or_and, or_and, or_and, shiftLeft20_low, haddr, hnew.2,
        and_and (show (0xfc000000 : UInt32) &&& 3 = 0 by decide)]
      simp

/-! ## Instructions with flags -/

section Flags

variable {op : UInt32} {a : ArmState σ}

lemma frame_setReg {r : Nat} (hr : Free a r) (v : UInt32) : Frame a (a.setReg r v) :=
  (Moves.setReg hr v).still

lemma free_rd (h15 : rd op ≠ 15) : Free a (rd op) := free_of (rd_lt op) (Or.inl h15)

lemma frame_logicalOpS {o : Operand σ} (hc : o.Carries) (h15 : rd op ≠ 15)
    (f : UInt32 → UInt32 → UInt32) : Frame a (logicalOpS o op a f) := by
  have hcarry := hc op a
  unfold logicalOpS
  dsimp only
  rw [if_neg h15]
  exact (hcarry.trans (frame_setReg (hcarry.free (free_rd h15)) _)).trans (frame_armFlagsLogical _ _)

lemma frame_arithOpS (o : Operand σ) (h15 : rd op ≠ 15) (f : UInt32 → UInt32 → UInt32 → UInt32)
    {flags : ArmState σ → UInt32 → UInt32 → UInt32 → ArmState σ} (hf : SetsFlags flags) :
    Frame a (arithOpS o op a f flags) := by
  unfold arithOpS
  dsimp only
  rw [if_neg h15]
  have hflags := hf a (getaddr a (rn op)) (o.value op a) (f (getaddr a (rn op)) (o.value op a) a.cfset)
  exact hflags.trans (frame_setReg (hflags.free (free_rd h15)) _)

lemma frame_subsImm (h15 : rd op ≠ 15) : Frame a (subsImm op a) := by
  unfold subsImm
  dsimp only
  rw [if_neg h15]
  exact (frame_setReg (free_rd h15) _).trans (setsFlags_sub _ _ _ _)

lemma restoresFrom_withS (bus : Bus σ) {c : Case} (hs : c.withS = true) :
    c.restoresFrom bus op a = if rd op = 15 then c.aluResult op a else none := by
  cases c with
  | ldmds | ldmis => exact absurd hs (by simp [Case.withS])
  | _ => simp only [Case.restoresFrom, hs, Bool.true_and, beq_iff_eq]

lemma frame_withS (bus : Bus σ) {c : Case} (hs : c.withS = true)
    (hclob : armMode32 a.mode = true ∨ c.clobbers bus op a = false)
    (hnone : c.restoresFrom bus op a = none) : Frame a (c.body bus op a) := by
  have h15 : (c.aluResult op a).isSome = true → rd op ≠ 15 := by
    intro hv heq
    rw [restoresFrom_withS bus hs, if_pos heq] at hnone
    rw [hnone] at hv
    exact absurd hv (by decide)
  cases c with
  | andsReg | eorsReg =>
    cases hm : isMul op with
    | true =>
      have hfree : Free a (mulRd op) := by
        refine free_of (field_lt op 16) (hclob.elim Or.inr fun h => Or.inl ?_)
        simpa [Case.clobbers, hm] using h
      simp only [Case.body, hm, if_true]
      exact (moves_mulOp hfree _).still.trans (frame_armFlagsLogical _ _)
    | false =>
      have hne : rd op ≠ 15 := h15 (by simp [Case.aluResult, hm])
      simp only [Case.body, hm, Bool.false_eq_true, if_false]
      exact frame_logicalOpS carries_reg hne _
  | addsReg | adcsReg | sbcsReg | rscsReg =>
    cases hm : isMulLong op a with
    | true =>
      have hne : armMode32 a.mode = true ∨ (mulRd op ≠ 15 ∧ mulRn op ≠ 15) := by
        refine hclob.imp_right fun h => ?_
        simpa [Case.clobbers, hm] using h
      have hd : Free a (mulRd op) :=
        free_of (field_lt op 16) (hne.elim Or.inr fun h => Or.inl h.1)
      have hn : Free a (mulRn op) :=
        free_of (field_lt op 12) (hne.elim Or.inr fun h => Or.inl h.2)
      simp only [Case.body, hm, if_true]
      exact (moves_mulLong hd hn _).still.trans (frame_armFlagsLongMultiply _ _)
    | false =>
      have hne : rd op ≠ 15 := h15 (by simp [Case.aluResult, hm])
      simp only [Case.body, hm, Bool.false_eq_true, if_false]
      refine frame_arithOpS _ hne _ ?_
      first
        | exact setsFlags_add
        | exact setsFlags_adc
        | exact setsFlags_sbc
        | exact setsFlags_rsc
  | subsImm =>
    have hne : rd op ≠ 15 := h15 rfl
    simp only [Case.body]
    exact frame_subsImm hne
  | subsReg | rsbsReg | rsbsImm | addsImm | adcsImm | sbcsImm | rscsImm =>
    have hne : rd op ≠ 15 := h15 rfl
    simp only [Case.body]
    refine frame_arithOpS _ hne _ ?_
    first
      | exact setsFlags_sub
      | exact setsFlags_rsb
      | exact setsFlags_add
      | exact setsFlags_adc
      | exact setsFlags_sbc
      | exact setsFlags_rsc
  | orrsReg | movsReg | bicsReg | mvnsReg =>
    have hne : rd op ≠ 15 := h15 rfl
    simp only [Case.body]
    exact frame_logicalOpS carries_reg hne _
  | andsImm | eorsImm | orrsImm | movsImm | bicsImm | mvnsImm =>
    have hne : rd op ≠ 15 := h15 rfl
    simp only [Case.body]
    exact frame_logicalOpS carries_imm hne _
  | _ => exact absurd hs (by simp [Case.withS])

end Flags

/-! ## Every case -/

def Case.compares : Case → Bool
  | tstReg | teqReg | cmpReg | cmnReg | tstImm | teqImm | cmpImm | cmnImm => true
  | _ => false

def Case.modeShown (bus : Bus σ) (op : UInt32) (a : ArmState σ) : Case → Bool
  | msrCpsrReg => !isMsrReg op || msrShown a op (a.reg (rm op))
  | msrCpsrImm => rd op != 15 || msrShown a op (armImm op)
  | mcr =>
    op &&& 0xf00 == 0x100 || !(isCp15 op a && leavesProg32 op a) || shown (a.mode &&& 0xf)
  | c =>
    if c.compares then rd op != 15 || restoreShown a
    else (c.restoresFrom bus op a).isNone || restoreShown a

section Body

variable (bus : Bus σ) {op : UInt32} {a : ArmState σ}

lemma settled_undefined (a : ArmState σ) : Settled (armExceptionUndefined a) :=
  settled_exception a (by decide) (by decide) 4

variable (ha : Settled a)
include ha

lemma settled_unallocated : Settled (unallocated a) := by
  unfold unallocated
  split
  · exact settled_undefined a
  · exact ha

lemma settled_testOp {o : Operand σ} (hc : o.Carries) (h : (rd op != 15 || restoreShown a) = true)
    (f : UInt32 → UInt32 → UInt32) : Settled (testOp o op a f) := by
  unfold testOp
  dsimp only
  split
  · rename_i h15
    exact ha.armCompareRd15 (by simpa [h15] using h) _
  · exact ha.frame ((hc op a).trans (frame_armFlagsLogical _ _))

lemma settled_compareOp (o : Operand σ) (h : (rd op != 15 || restoreShown a) = true)
    (f : UInt32 → UInt32 → UInt32)
    {flags : ArmState σ → UInt32 → UInt32 → UInt32 → ArmState σ} (hf : SetsFlags flags) :
    Settled (compareOp o op a f flags) := by
  unfold compareOp
  dsimp only
  split
  · rename_i h15
    exact ha.armCompareRd15 (by simpa [h15] using h) _
  · exact ha.frame (hf _ _ _ _)

lemma settled_fpaopcode (hfields : FpaFields bus)
    (h : armMode32 a.mode = true ∨ Case.fpaClobbers bus op a = false) :
    Settled (fpaopcode bus op a) := by
  cases hp : Case.fpaPlain bus op a with
  | true => exact ha.moves (moves_fpaopcode bus hfields hp h)
  | false =>
    unfold fpaopcode
    unfold Case.fpaPlain at hp
    cases hf : bus.fpa op a with
    | wrote r w => simp [hf] at hp
    | compared flags w =>
      have hworld : Frame a (a.withWorld w) := (Moves.withWorld a w).still
      refine ha.frame (hworld.trans (frame_setFlags _ (by decide) ?_))
      rw [and_and (show (0xf0000000 : UInt32) &&& 0x1f = 0 by decide), UInt32.and_zero]
    | undefined => exact settled_undefined _

lemma settled_mcr (h : (!(isCp15 op a && Case.leavesProg32 op a) || shown (a.mode &&& 0xf)) = true) :
    Settled (mcr bus op a) := by
  cases hcp : isCp15 op a with
  | false =>
    unfold mcr
    rw [if_neg (by simp [hcp])]
    exact settled_undefined a
  | true =>
    cases hl : Case.leavesProg32 op a with
    | false => exact ha.moves (moves_mcr bus hcp hl)
    | true =>
      have hleaves := hl
      simp only [Case.leavesProg32, Bool.and_eq_true, beq_iff_eq] at hleaves
      obtain ⟨⟨hrn, hval⟩, h32⟩ := hleaves
      have hshown : shown (a.mode &&& 0xf) = true := by simpa [hcp, hl] using h
      have hmode : armMode32 (a.mode &&& 0xf) = false := by
        rw [armMode32, and_and (show (0xf : UInt32) &&& 0x10 = 0 by decide)]
        simp
      unfold mcr cp15Write
      simp only [if_pos hcp, if_pos hrn, hval, h32, bne_self_eq_false, Bool.not_false, Bool.true_and,
        if_true]
      apply settled_updatemode
      have hlt : a.mode &&& 0xf < 4 := by simpa [shown, hmode] using hshown
      rw [if_neg (by simp [hmode]), movedR15_low h32 hmode, and_of_lt hlt]

lemma settled_opSWI : Settled (opSWI bus op a) := by
  unfold opSWI
  split
  · exact ha.frame (frame_clearV a)
  · cases hs : bus.swi (swinum op a) a with
    | answered regs v w =>
      have hanswered := (moves_answered (a := a) regs w).still
      dsimp only
      split
      · exact ha.frame (hanswered.trans (frame_clearV _))
      · exact ha.frame hanswered
    | real w => exact settled_exception _ (by decide) (by decide) 4

omit ha in
lemma unlessBit4_undefined {below : ArmState σ} (h : (op &&& 0x10 == 0) = false) :
    unlessBit4 op a below = armExceptionUndefined a := if_pos (by simpa using h)

omit ha in
lemma restoreShown_of_modeShown {c : Case} {v : UInt32} (h : c.restoresFrom bus op a = some v)
    (hmode : c.modeShown bus op a = true) : restoreShown a = true := by
  cases c with
  | msrCpsrReg | msrCpsrImm | mcr => simp [Case.restoresFrom, Case.withS] at h
  | tstReg | teqReg | cmpReg | cmnReg => simp [Case.restoresFrom, Case.withS] at h
  | tstImm | teqImm | cmpImm | cmnImm => simp [Case.restoresFrom, Case.withS] at h
  | _ => simpa [Case.modeShown, Case.compares, h] using hmode

lemma settled_restores {c : Case} {v : UInt32} (h : c.restoresFrom bus op a = some v)
    (hmode : c.modeShown bus op a = true) : Settled (c.body bus op a) := by
  obtain ⟨t, ht, heq⟩ := restores_body bus h
  have hshown : restoreShown t = true := by
    rw [restoreShown, ht.mode, ht.spsr]
    exact restoreShown_of_modeShown bus h hmode
  rw [heq]
  exact (ha.moves ht).armWriteR15 hshown v

lemma settled_armLoadMultipleS_none {address writeback : UInt32} (hr15 : listsR15 op = true)
    (h : ldmDest bus op a address = none) :
    Settled (armLoadMultipleS bus op a address writeback) := by
  unfold armLoadMultipleS
  rw [if_pos hr15]
  rcases loadMultiple_r15_cases bus address writeback below_setReg placing_setReg armWriteR15 hr15
    with ⟨-, hmoves⟩ | ⟨t, u, hsome, -, -⟩
  · exact ha.moves hmoves
  · rw [h] at hsome
    exact absurd hsome (by simp)

/-- **A case of the switch** keeps the mode and the status together. -/
lemma settled_body (hfields : FpaFields bus) (c : Case)
    (hclob : armMode32 a.mode = true ∨ c.clobbers bus op a = false)
    (hmode : c.modeShown bus op a = true) : Settled (c.body bus op a) := by
  cases hplain : c.plain bus op a with
  | true => exact ha.moves (moves_body bus hfields ha.userPtrs c hplain hclob)
  | false =>
    cases hr : c.restoresFrom bus op a with
    | some v => exact settled_restores bus ha hr hmode
    | none =>
      cases hs : c.withS with
      | true => exact ha.frame (frame_withS bus hs hclob hr)
      | false =>
        cases c with
        | tstReg | teqReg => exact settled_testOp ha carries_reg hmode _
        | tstImm | teqImm => exact settled_testOp ha carries_imm hmode _
        | cmpReg | cmpImm => exact settled_compareOp ha _ hmode _ setsFlags_sub
        | cmnReg | cmnImm => exact settled_compareOp ha _ hmode _ setsFlags_add
        | msrCpsrReg =>
          simp only [Case.body]
          split
          · rename_i hmsr
            exact ha.armWriteCpsr (by simpa [Case.modeShown, hmsr] using hmode)
          · exact settled_unallocated ha
        | msrCpsrImm =>
          simp only [Case.body]
          split
          · rename_i hmsr
            exact ha.armWriteCpsr (by simpa [Case.modeShown, hmsr] using hmode)
          · exact settled_unallocated ha
        | msrSpsrReg | msrSpsrImm =>
          simp only [Case.body]
          split
          · unfold armWriteSpsr
            split
            · exact ⟨⟨ha.status, ⟨ha.follows.mmask, ha.follows.r15Mask, ha.follows.cpsr,
                ha.follows.memmode⟩⟩, ha.userPtrs⟩
            · exact ha
          · exact settled_unallocated ha
        | mrsCpsrSwp | mrsSpsrSwpb =>
          simp only [Case.plain, Bool.or_eq_false_iff] at hplain
          simp only [Case.body, hplain.1.1, hplain.1.2, Bool.false_eq_true, if_false]
          exact settled_unallocated ha
        | strtReg | ldrtReg | strbtReg | ldrbtReg | strReg | ldrReg | strbReg | ldrbReg =>
          simp only [Case.body, unlessBit4_undefined hplain]
          exact settled_undefined a
        | ldmds =>
          have hr15 : listsR15 op = true := by simpa [Case.plain] using hplain
          exact settled_armLoadMultipleS_none bus ha hr15 hr
        | ldmis =>
          have hr15 : listsR15 op = true := by simpa [Case.plain] using hplain
          exact settled_armLoadMultipleS_none bus ha hr15 hr
        | copro =>
          simp only [Case.body]
          split
          · rename_i hfpa
            refine settled_fpaopcode bus ha hfields (hclob.imp_right fun h => ?_)
            simpa [Case.clobbers, hfpa] using h
          · exact settled_undefined a
        | mcr =>
          simp only [Case.body]
          split
          · rename_i hfpa
            refine settled_fpaopcode bus ha hfields (hclob.imp_right fun h => ?_)
            simpa [Case.clobbers, hfpa] using h
          · rename_i hfpa
            exact settled_mcr bus ha (by simpa [Case.modeShown, hfpa] using hmode)
        | mrc =>
          simp only [Case.plain] at hplain
          simp only [Case.body]
          split
          · rename_i hfpa
            refine settled_fpaopcode bus ha hfields (hclob.imp_right fun h => ?_)
            simpa [Case.clobbers, hfpa] using h
          · rename_i hfpa
            rw [if_neg hfpa] at hplain
            unfold Arm.mrc
            rw [if_neg (by simp [hplain])]
            exact settled_undefined a
        | swi => exact settled_opSWI bus ha
        | default => exact settled_unallocated ha
        | _ => simp [Case.withS, Case.plain, Case.withoutS] at hs hplain

end Body

/-! ## Steps and runs -/

section Steps

variable (bus : Bus σ)

/-- `debugger_set_register`: whether the register was written, and the core. -/
def debuggerSetRegister (paused : Bool) (reg : Int) (value : UInt32) (a : ArmState σ) :
    Bool × ArmState σ :=
  if !paused then (false, a)
  else if reg = 16 then (true, a.setReg 16 value)
  else if reg = 17 then
    (true, a.setReg 15 ((a.reg 15 &&& ~~~a.r15Mask) ||| ((value + 8) &&& a.r15Mask)))
  else if reg < 0 ∨ 15 < reg then (false, a)
  else (true, a.setReg reg.toNat value)

/-- What happens between two boundaries of instructions: one is executed, or there is no page to fetch
it from, or the debugger writes a register, or a device raises `arm.event` or drops it. -/
inductive Step where
  | exec (op : UInt32)
  | prefetchAbort
  | setRegister (paused : Bool) (reg : Int) (value : UInt32)
  | device (event : UInt32)

def Step.apply (a : ArmState σ) : Step → ArmState σ
  | exec op => armExec bus op a
  | prefetchAbort => Arm.prefetchAbort a
  | device event => { a with world := { a.world with event } }
  | setRegister paused reg value => (debuggerSetRegister paused reg value a).2

/-- **The steps that keep the two together.**  An instruction that is executed goes to a mode that the
status can show, and in a 26-bit mode it does not write R15 as a plain register; the debugger writes
neither another mode to the CPSR of a 32-bit mode nor to R15 of a 26-bit one. -/
def Sound (a : ArmState σ) : Step → Bool
  | .exec op =>
    !condition op a || (armMode32 a.mode || !opClobbers bus op a) &&
      (isExtended op a || (switchCase (opIndex op)).modeShown bus op a)
  | .prefetchAbort | .device _ => true
  | .setRegister paused reg value =>
    !paused || if armMode32 a.mode then reg != 16 || value &&& 0x1f == a.mode
      else reg != 15 || value &&& 3 == a.mode

def runSteps (a : ArmState σ) (ss : List Step) : ArmState σ := ss.foldl (Step.apply bus) a

/-- Every step of the run is sound where it is taken. -/
def SoundRun : ArmState σ → List Step → Prop
  | _, [] => True
  | a, s :: ss => Sound bus a s = true ∧ SoundRun (s.apply bus a) ss

variable {a : ArmState σ} (ha : Settled a)
include ha

lemma settled_armOpcode {op : UInt32} (hfields : FpaFields bus)
    (hclob : armMode32 a.mode = true ∨ opClobbers bus op a = false)
    (hmode : (isExtended op a || (switchCase (opIndex op)).modeShown bus op a) = true) :
    Settled (armOpcode bus op a) := by
  cases hext : isExtended op a with
  | true => exact ha.moves (moves_extended bus hext hclob)
  | false =>
    rw [(armOpcode_switch bus hext).1]
    refine settled_body bus ha hfields _ (hclob.imp_right fun h => ?_) ?_
    · simpa [opClobbers, hext] using h
    · simpa [hext] using hmode

lemma settled_syncDisables : Settled (syncDisables a) := by
  unfold syncDisables
  split
  · exact ha
  · rename_i h26
    refine ha.frame ⟨⟨rfl, rfl, rfl, rfl, rfl, rfl, rfl⟩, fun _ => ?_, fun h32 => absurd h32 h26⟩
    rw [setReg_of_ne _ (by decide), setReg_of_ne _ (by decide)]

lemma settled_takeEvent : Settled (takeEvent a) := by
  have hsync := settled_syncDisables ha
  unfold takeEvent
  split
  · exact ha
  · dsimp only
    split
    · have habort : Settled (exception (syncDisables a) abort 0x14 0) :=
        settled_exception _ (by decide) (by decide) 0
      exact habort.frame (Moves.withWorld _ _).still
    · split
      · exact settled_exception _ (by decide) (by decide) 0
      · split
        · exact settled_exception _ (by decide) (by decide) 0
        · exact hsync

lemma settled_advance : Settled (advance a) := by
  have hlow : ∀ x : UInt32, (x + 4) &&& 3 = x &&& 3 := by
    intro x
    apply UInt32.toNat_inj.mp
    rw [UInt32.toNat_and, UInt32.toNat_and, UInt32.toNat_add]
    show (x.toNat + 4) % 2 ^ 32 &&& 2 ^ 2 - 1 = x.toNat &&& 2 ^ 2 - 1
    rw [Nat.and_two_pow_sub_one_eq_mod, Nat.and_two_pow_sub_one_eq_mod]
    omega
  refine ha.frame ⟨SameMode.setReg a 15 _, fun _ => ?_, fun _ => ?_⟩
  · rw [advance, setReg_self, hlow]
  · rw [advance, setReg_of_ne a (by decide)]

lemma settled_debuggerSetRegister {paused : Bool} {reg : Int} {value : UInt32}
    (h : Sound bus a (.setRegister paused reg value) = true) :
    Settled (debuggerSetRegister paused reg value a).2 := by
  unfold debuggerSetRegister
  cases paused with
  | false => exact ha
  | true =>
    simp only [Sound, Bool.not_true, Bool.false_or] at h
    simp only [Bool.not_true, Bool.false_eq_true, if_false]
    have hst := ha.status
    split
    · rename_i h16
      refine ha.frame ⟨SameMode.setReg a 16 _, fun _ => ?_, fun h32 => ?_⟩
      · rw [setReg_of_ne a (by decide)]
      · rw [if_pos h32] at hst h
        rw [setReg_self, ← hst]
        simpa [h16] using h
    · split
      · refine ha.frame ⟨SameMode.setReg a 15 _, fun _ => ?_, fun _ => ?_⟩
        · rw [setReg_self]
          exact put_and_outside (Settled.r15Mask_low ha.follows) _ _
        · rw [setReg_of_ne a (by decide)]
      · split
        · exact ha
        · rename_i hrange
          by_cases h15 : reg = 15
          · subst h15
            refine ha.frame ⟨SameMode.setReg a _ _, fun h26 => ?_, fun _ => ?_⟩
            · rw [if_neg (by simp [h26])] at hst h
              show (a.setReg 15 value).reg 15 &&& 3 = _
              rw [setReg_self, ← hst]
              simpa using h
            · exact congrArg (· &&& 0x1f) (setReg_of_ne a (by decide) _)
          · exact settled_setReg ha (by omega) _

/-- **A sound step.** -/
lemma settled_step (hfields : FpaFields bus) {s : Step} (h : Sound bus a s = true) :
    Settled (s.apply bus a) := by
  cases s with
  | exec op =>
    refine settled_advance (settled_takeEvent ?_)
    split
    · rename_i hcond
      simp only [Sound, hcond, Bool.not_true, Bool.false_or, Bool.and_eq_true] at h
      refine settled_armOpcode bus ha hfields ?_ h.2
      simpa using h.1
    · exact ha
  | prefetchAbort => exact settled_advance (settled_exception a (by decide) (by decide) 4)
  | setRegister paused reg value => exact settled_debuggerSetRegister bus ha h
  | device event => exact ha.frame (Moves.withWorld _ _).still

/-- **A sound run.** -/
lemma settled_run (hfields : FpaFields bus) {ss : List Step} (h : SoundRun bus a ss) :
    Settled (runSteps bus a ss) := by
  induction ss generalizing a with
  | nil => exact ha
  | cons s ss ih =>
    obtain ⟨hs, hss⟩ := h
    exact ih (settled_step bus ha hfields hs) hss

end Steps

lemma settled_armReset (model : CpuModel) (prog32 : Bool) (w : World σ) :
    Settled (armReset model prog32 w) := by
  have hf := follows_updatemode (cleared prog32 w) supervisor
  have hmode := updatemode_mode (cleared prog32 w) supervisor
  have h15 : (armReset model prog32 w).reg 15 = 0x0c000008 ||| 3 := by
    unfold armReset
    simp [ArmState.setReg]
  have hsvc : (armReset model prog32 w).mode = supervisor := rfl
  refine ⟨⟨?_, ⟨?_, ?_, ?_, ?_⟩⟩, userPtrs_updatemode (cleared prog32 w) supervisor⟩
  · rw [hsvc, if_neg (by decide), h15]
    decide
  · have h := hf.mmask
    rw [hmode] at h
    exact h
  · have h := hf.r15Mask
    rw [hmode] at h
    exact h
  · rw [hsvc, if_neg (by decide)]
    rfl
  · have h := hf.memmode
    rw [hmode] at h
    exact h

/-- **In a run of sound steps the mode is that of the status.**  From reset, through instructions,
exceptions, interrupts, writes of the control register and of the debugger. -/
theorem mode_agrees_in_sound_runs (bus : Bus σ) (hfields : FpaFields bus) (model : CpuModel)
    (prog32 : Bool) (w : World σ) (ss : List Step)
    (h : SoundRun bus (armReset model prog32 w) ss) :
    ModeAgrees (runSteps bus (armReset model prog32 w) ss) :=
  (settled_run bus (settled_armReset model prog32 w) hfields h).toModeAgrees

def swiRun : List Step :=
  [.exec 0xe321f0df, .exec 0xef000011, .setRegister true 17 0x8000, .device 1, .exec 0xe1b0f00e, .prefetchAbort]

theorem mode_agrees_in_sound_runs_swi :
    let t := runSteps emptyBus (armReset .sa110 true ⟨0, ()⟩) swiRun
    t.mode = 0x17 ∧ t.spsr 7 &&& 0x1f = 0x1f ∧ ModeAgrees t := by
  have hfields : FpaFields emptyBus := by
    intro op a r v w h
    exact absurd h (by simp [emptyBus])
  refine ⟨by decide +kernel, by decide +kernel, ?_⟩
  exact mode_agrees_in_sound_runs emptyBus hfields .sa110 true ⟨0, ()⟩ swiRun
    ⟨by decide +kernel, by decide +kernel, by decide +kernel, by decide +kernel, by decide +kernel,
      by decide +kernel, trivial⟩

theorem mode_disagrees_without_prog32 :
    ¬ ModeAgrees (runSteps emptyBus (armReset .sa110 true ⟨0, ()⟩)
      [.exec 0xe321f0d7, .exec 0xee010f10]) := by
  intro h
  have hst := h.status
  revert hst
  decide +kernel

end RpcEmu.Arm
