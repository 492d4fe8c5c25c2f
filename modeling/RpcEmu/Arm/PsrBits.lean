import RpcEmu.Arm.ModeField

/-!
# The status of a 26-bit mode

In a 26-bit mode R15 has the address of the PC in bits 2–25 and the status around it.  Every way to
write the address masks it into its field, but the pipeline is kept by `arm.reg[15] += 4` on the whole
word at the end of each instruction, and `arm_write_r15` adds to the whole value.

* **A plain instruction** keeps the status exactly when the next one is not at `0x3fffff8`: then the
  addition carries out of the field (`psr_bits_kept`).
* **A restored status** is that of the value exactly when its address is below `0x3fffff8`.
-/

namespace RpcEmu.Arm

open Masks Pages

variable {σ : Type}

def psrBits : UInt32 := 0xfc000003

def pcBits : UInt32 := 0x3fffffc

/-! ## The carry -/

lemma toNat_pcBits (x : UInt32) : (x &&& pcBits).toNat = 4 * (x.toNat / 4 % 2 ^ 24) :=
  toNat_and_field 2 24 (by decide) x

lemma and_psrBits_eq_iff (x y : UInt32) : x &&& psrBits = y &&& psrBits ↔
    x.toNat / 2 ^ 26 = y.toNat / 2 ^ 26 ∧ x.toNat % 4 = y.toNat % 4 := by
  have hsplit : ∀ z : UInt32, z &&& psrBits = (z &&& 0xfc000000) ||| (z &&& 3) := by
    intro z
    rw [UInt32.and_comm z 0xfc000000, UInt32.and_comm z 3, ← or_and, UInt32.and_comm]
    rfl
  have htop : ∀ z : UInt32, (z &&& 0xfc000000).toNat = 2 ^ 26 * (z.toNat / 2 ^ 26) := by
    intro z
    have hlt := z.toNat_lt
    rw [toNat_and_field 26 6 (by decide)]
    omega
  have hlow : ∀ z : UInt32, (z &&& 3).toNat = z.toNat % 4 := by
    intro z
    rw [toNat_and_field 0 2 (by decide)]
    omega
  constructor
  · intro h
    have h₁ : x &&& 0xfc000000 = y &&& 0xfc000000 := and_eq_of_and_eq h (by decide)
    have h₂ : x &&& 3 = y &&& 3 := and_eq_of_and_eq h (by decide)
    have h₃ := congrArg UInt32.toNat h₁
    have h₄ := congrArg UInt32.toNat h₂
    rw [htop, htop] at h₃
    rw [hlow, hlow] at h₄
    exact ⟨by omega, h₄⟩
  · rintro ⟨h₁, h₂⟩
    have h₃ : x &&& 0xfc000000 = y &&& 0xfc000000 := by
      apply UInt32.toNat_inj.mp
      rw [htop, htop, h₁]
    have h₄ : x &&& 3 = y &&& 3 := by
      apply UInt32.toNat_inj.mp
      rw [hlow, hlow, h₂]
    rw [hsplit, hsplit, h₃, h₄]

/-- **The carry of the pipeline**: out of a full field, and from nowhere else. -/
lemma add_four_psrBits (x : UInt32) :
    (x + 4) &&& psrBits = x &&& psrBits ↔ x &&& pcBits ≠ pcBits := by
  have hlt := x.toNat_lt
  have hfull : x &&& pcBits = pcBits ↔ x.toNat / 4 % 2 ^ 24 = 2 ^ 24 - 1 := by
    rw [← UInt32.toNat_inj, toNat_pcBits]
    show _ = 0x3fffffc ↔ _
    omega
  have hadd : (x + 4).toNat = (x.toNat + 4) % 2 ^ 32 := UInt32.toNat_add x 4
  rw [and_psrBits_eq_iff, hadd, ne_eq, hfull]
  omega

lemma add_four_pcBits (v : UInt32) : (v + 4) &&& pcBits = pcBits ↔ v &&& pcBits = 0x3fffff8 := by
  have hlt := v.toNat_lt
  have hadd : (v + 4).toNat = (v.toNat + 4) % 2 ^ 32 := UInt32.toNat_add v 4
  rw [← UInt32.toNat_inj, ← UInt32.toNat_inj, toNat_pcBits, toNat_pcBits, hadd]
  show _ = 0x3fffffc ↔ _ = 0x3fffff8
  omega

lemma add_eight_psrBits (x : UInt32) :
    (x + 4 + 4) &&& psrBits = x &&& psrBits ↔ x &&& pcBits < 0x3fffff8 := by
  have hlt := x.toNat_lt
  have hless : x &&& pcBits < 0x3fffff8 ↔ x.toNat / 4 % 2 ^ 24 < 2 ^ 24 - 2 := by
    rw [UInt32.lt_iff_toNat_lt, toNat_pcBits]
    show _ < 0x3fffff8 ↔ _
    omega
  have hadd : (x + 4 + 4).toNat = (x.toNat + 8) % 2 ^ 32 := by
    rw [UInt32.toNat_add, UInt32.toNat_add]
    show ((x.toNat + 4) % 2 ^ 32 + 4) % 2 ^ 32 = _
    omega
  rw [and_psrBits_eq_iff, hadd, hless]
  omega

/-! ## One pass of the loop -/

section Pass

variable (bus : Bus σ) (op : UInt32) (a : ArmState σ)

def executed : ArmState σ := if condition op a then armOpcode bus op a else a

def eventDue : Bool :=
  a.world.event != 0 && (a.aborted ||
    a.world.event &&& 2 != 0 && (syncDisables a).reg 16 &&& 0x40 == 0 ||
    a.world.event &&& 1 != 0 && (syncDisables a).reg 16 &&& 0x80 == 0)

def nextAddr : UInt32 :=
  match if condition op a then opDest bus op a else none with
  | some v => v &&& pcBits
  | none => (a.reg 15 - 4) &&& pcBits

def opRestoresFrom : Option UInt32 :=
  if isExtended op a then none else (switchCase (opIndex op)).restoresFrom bus op a

variable {op a}

lemma syncDisables_r15 (a : ArmState σ) : (syncDisables a).reg 15 = a.reg 15 := by
  unfold syncDisables
  split
  · rfl
  · dsimp only
    rw [setReg_of_ne _ (by decide), setReg_of_ne _ (by decide)]

lemma syncDisables_world (a : ArmState σ) : (syncDisables a).world = a.world := by
  unfold syncDisables
  split <;> rfl

lemma takeEvent_r15 (h : eventDue a = false) : (takeEvent a).reg 15 = a.reg 15 := by
  unfold takeEvent
  split
  · rfl
  · rename_i hev
    have hworld := syncDisables_world a
    have hab : (syncDisables a).aborted = a.aborted := by
      rw [ArmState.aborted, hworld]
      rfl
    simp only [eventDue, ne_eq, hev, Bool.and_eq_false_iff, Bool.or_eq_false_iff, bne_eq_false_iff_eq,
      beq_eq_false_iff_ne, false_or] at h
    obtain ⟨⟨habort, hfiq⟩, hirq⟩ := h
    dsimp only
    rw [hab, hworld, habort, if_neg (by decide), if_neg (by tauto), if_neg (by tauto),
      syncDisables_r15]

lemma armExec_r15 (h : eventDue (executed bus op a) = false) :
    (armExec bus op a).reg 15 = (executed bus op a).reg 15 + 4 := by
  show (advance (takeEvent (executed bus op a))).reg 15 = _
  rw [advance, setReg_self, takeEvent_r15 h]

lemma armWriteR15_r15 {t : ArmState σ} (h26 : armMode32 t.mode = false)
    (hp : armModePriv t.mode = true) (hf : Follows t) (v : UInt32) :
    (armWriteR15 t v).reg 15 = v + 4 := by
  set u := t.setReg 15 ((t.reg 15 &&& ~~~writeR15Mask t.mode) ||| ((v + 4) &&& writeR15Mask t.mode))
    with hu
  have hwrite : armWriteR15 t v = followPsr u := by
    have hrestore : restoreSpsr u = u := if_neg (by rw [show u.mode = t.mode from rfl, h26]; decide)
    unfold armWriteR15
    dsimp only
    rw [if_pos (show armModePriv (t.setReg 15 _).mode = true from hp), ← hu, hrestore]
  have h15 : u.reg 15 = v + 4 := by
    have hmask : writeR15Mask t.mode = 0xffffffff := by rw [writeR15Mask, h26, hp]; rfl
    have hones : ∀ x : UInt32, x &&& 0xffffffff = x := fun x => UInt32.and_neg_one
    rw [hu, setReg_self, hmask, hones, show ~~~(0xffffffff : UInt32) = 0 by decide, UInt32.and_zero,
      UInt32.zero_or]
  have hpsr : u.psr &&& u.mmask = u.reg 15 &&& 3 := by
    rw [ArmState.psr, show u.cpsr = t.cpsr from rfl, show u.mmask = t.mmask from rfl, hf.cpsr, hf.mmask,
      h26]
    rfl
  rw [hwrite, followPsr, hpsr]
  split
  · rw [updatemode_r15, movedR15, armMode32_low, show u.mode = t.mode from rfl, h26]
    exact h15
  · exact h15

end Pass

/-! ## What is kept -/

section Kept

variable (bus : Bus σ) {op : UInt32} {a : ArmState σ} (h26 : armMode32 a.mode = false) (hf : Follows a)
include h26 hf

lemma follows_r15Mask : a.r15Mask = pcBits := by
  rw [hf.r15Mask, h26]
  rfl

lemma advance_psrBits {d : Option UInt32} {t : ArmState σ} (ht : Moves d a t) :
    (t.reg 15 + 4) &&& psrBits = a.reg 15 &&& psrBits ↔
      (match d with | some v => v &&& pcBits | none => (a.reg 15 - 4) &&& pcBits) ≠ 0x3fffff8 := by
  have hmask := follows_r15Mask h26 hf
  have h15 := ht.r15 h26
  have hkept : t.reg 15 &&& psrBits = a.reg 15 &&& psrBits := by
    rw [h15]
    cases d with
    | none => rfl
    | some v =>
      refine put_and_outside ?_ _ _
      rw [hmask]
      decide
  have hfull : t.reg 15 &&& pcBits = pcBits ↔
      (match d with | some v => v &&& pcBits | none => (a.reg 15 - 4) &&& pcBits) = 0x3fffff8 := by
    rw [h15]
    cases d with
    | none =>
      show a.reg 15 &&& pcBits = pcBits ↔ (a.reg 15 - 4) &&& pcBits = 0x3fffff8
      rw [← add_four_pcBits, UInt32.sub_add_cancel]
    | some v =>
      have hinside : put a.r15Mask (a.reg 15) (v + 4) &&& pcBits = (v + 4) &&& pcBits := by
        rw [hmask]
        exact put_and_inside (by decide) _ _
      rw [placedR15, hinside]
      exact add_four_pcBits v
  rw [← hkept, add_four_psrBits, ne_eq, hfull]

end Kept

/-- **Only what writes the status changes it**, but for the carry.  An instruction that leaves the
status alone and does not write R15 as a plain register keeps it exactly when the next instruction is
not at `0x3fffff8`; one that restores it from a value leaves that of the value exactly when the address
of the value is below `0x3fffff8`. -/
theorem psr_bits_kept (bus : Bus σ) (hfields : FpaFields bus) (op : UInt32) (a : ArmState σ)
    (h26 : armMode32 a.mode = false) (hf : Follows a) (hu : UserPtrs a)
    (hev : eventDue (executed bus op a) = false) :
    ((condition op a = true → opPlain bus op a = true ∧ opClobbers bus op a = false) →
      ((armExec bus op a).reg 15 &&& psrBits = a.reg 15 &&& psrBits ↔
        nextAddr bus op a ≠ 0x3fffff8)) ∧
    ∀ v, condition op a = true → armModePriv a.mode = true → opRestoresFrom bus op a = some v →
      ((armExec bus op a).reg 15 &&& psrBits = v &&& psrBits ↔ v &&& pcBits < 0x3fffff8) := by
  rw [armExec_r15 bus hev]
  constructor
  · intro h
    have hmoves : Moves (if condition op a then opDest bus op a else none) a (executed bus op a) := by
      unfold executed
      split
      · rename_i hcond
        obtain ⟨hplain, hclob⟩ := h hcond
        exact moves_armOpcode bus hfields hu hplain (Or.inr hclob)
      · exact Moves.refl a
    exact advance_psrBits h26 hf hmoves
  · intro v hcond hp hv
    have hext : isExtended op a = false := by
      unfold opRestoresFrom at hv
      cases hx : isExtended op a with
      | false => rfl
      | true => simp [hx] at hv
    simp only [opRestoresFrom, hext, Bool.false_eq_true, if_false] at hv
    obtain ⟨t, ht, hbody⟩ := restores_body bus hv
    have hexec : executed bus op a = armWriteR15 t v := by
      unfold executed
      rw [if_pos hcond, (armOpcode_switch bus hext).1, hbody]
    have h26' : armMode32 t.mode = false := by rw [ht.mode]; exact h26
    have hp' : armModePriv t.mode = true := by rw [ht.mode]; exact hp
    rw [hexec, armWriteR15_r15 h26' hp' (follows_of_sameMode ht.toSameMode hf)]
    exact add_eight_psrBits v

def topOfSpace : ArmState Unit := (armReset .sa110 false ⟨0, ()⟩).setReg 15 0x0fffffff

theorem psr_bits_kept_branch :
    ((armExec emptyBus 0xeafffffe topOfSpace).reg 15 &&& psrBits = 0x0c000003 ↔
      nextAddr emptyBus 0xeafffffe topOfSpace ≠ 0x3fffff8) ∧
    nextAddr emptyBus 0xeafffffe topOfSpace = 0x3fffff4 ∧
    ((armExec emptyBus 0xe1b0f00e (topOfSpace.setReg 14 0x6c008003)).reg 15 &&& psrBits =
      0x6c008003 &&& psrBits ↔ (0x6c008003 : UInt32) &&& pcBits < 0x3fffff8) := by
  have hfields : FpaFields emptyBus := by
    intro op a r v w h
    exact absurd h (by simp [emptyBus])
  have hsettled : Settled (armReset .sa110 false ⟨0, ()⟩) := settled_armReset _ _ _
  have hf : Follows topOfSpace := follows_setReg hsettled.follows 15 _
  refine ⟨?_, by decide +kernel, ?_⟩
  · exact (psr_bits_kept emptyBus hfields 0xeafffffe topOfSpace (by decide) hf hsettled.userPtrs
      (by decide +kernel)).1 (by decide +kernel)
  · exact (psr_bits_kept emptyBus hfields 0xe1b0f00e (topOfSpace.setReg 14 0x6c008003) (by decide)
      (follows_setReg hf 14 _) hsettled.userPtrs (by decide +kernel)).2 0x6c008003 (by decide +kernel)
        (by decide +kernel) (by decide +kernel)

theorem psr_bits_not_kept :
    ((armExec emptyBus 0xe1a00000 topOfSpace).reg 15 &&& psrBits = 0x10000003 ∧
      topOfSpace.reg 15 &&& psrBits = 0x0c000003) ∧
    (armExec emptyBus 0xe00f0291 (topOfSpace.setReg 15 0x0c008003)).reg 15 = 4 ∧
    (armExec emptyBus 0xe1b0f00e (topOfSpace.setReg 14 0x0ffffffb)).reg 15 &&& psrBits ≠
      0x0ffffffb &&& psrBits := by
  decide +kernel

end RpcEmu.Arm
