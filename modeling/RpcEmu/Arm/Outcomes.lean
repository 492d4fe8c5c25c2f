import RpcEmu.Arm.Frames

/-!
# Where an instruction goes

What each case of the switch does to R15, said without running it.
-/

namespace RpcEmu.Arm

open Masks

variable {σ : Type}

/-! ## Tables -/

section Tables

variable (bus : Bus σ) (op : UInt32) (a : ArmState σ)

def dataResult (o : Operand σ) (f : UInt32 → UInt32 → UInt32 → UInt32) : UInt32 :=
  f (getaddr a (rn op)) (o.value op a) a.cfset

namespace Case

def aluResult : Case → Option UInt32
  | andReg | andsReg => if isMul op then none else dataResult op a .reg fun l r _ => l &&& r
  | eorReg | eorsReg => if isMul op then none else dataResult op a .reg fun l r _ => l ^^^ r
  | subReg | subsReg => dataResult op a .reg fun l r _ => l - r
  | rsbReg | rsbsReg => dataResult op a .reg fun l r _ => r - l
  | addReg | addsReg => if isMulLong op a then none else dataResult op a .reg fun l r _ => l + r
  | adcReg | adcsReg => if isMulLong op a then none else dataResult op a .reg fun l r c => l + r + c
  | sbcReg | sbcsReg =>
    if isMulLong op a then none else dataResult op a .reg fun l r c => l - r - borrow c
  | rscReg | rscsReg =>
    if isMulLong op a then none else dataResult op a .reg fun l r c => r - l - borrow c
  | orrReg | orrsReg => dataResult op a .reg fun l r _ => l ||| r
  | movReg | movsReg => dataResult op a .reg fun _ r _ => r
  | bicReg | bicsReg => dataResult op a .reg fun l r _ => l &&& ~~~r
  | mvnReg | mvnsReg => dataResult op a .reg fun _ r _ => ~~~r
  | andImm | andsImm => dataResult op a .imm fun l r _ => l &&& r
  | eorImm | eorsImm => dataResult op a .imm fun l r _ => l ^^^ r
  | subImm | subsImm => dataResult op a .imm fun l r _ => l - r
  | rsbImm | rsbsImm => dataResult op a .imm fun l r _ => r - l
  | addImm | addsImm => dataResult op a .imm fun l r _ => l + r
  | adcImm | adcsImm => dataResult op a .imm fun l r c => l + r + c
  | sbcImm | sbcsImm => dataResult op a .imm fun l r c => l - r - borrow c
  | rscImm | rscsImm => dataResult op a .imm fun l r c => r - l - borrow c
  | orrImm | orrsImm => dataResult op a .imm fun l r _ => l ||| r
  | movImm | movsImm => dataResult op a .imm fun _ r _ => r
  | bicImm | bicsImm => dataResult op a .imm fun l r _ => l &&& ~~~r
  | mvnImm | mvnsImm => dataResult op a .imm fun _ r _ => ~~~r
  | _ => none

def withS : Case → Bool
  | andsReg | eorsReg | subsReg | rsbsReg | addsReg | adcsReg | sbcsReg | rscsReg => true
  | orrsReg | movsReg | bicsReg | mvnsReg => true
  | andsImm | eorsImm | subsImm | rsbsImm | addsImm | adcsImm | sbcsImm | rscsImm => true
  | orrsImm | movsImm | bicsImm | mvnsImm => true
  | _ => false

def withoutS : Case → Bool
  | andReg | eorReg | subReg | rsbReg | addReg | adcReg | sbcReg | rscReg => true
  | orrReg | movReg | bicReg | mvnReg => true
  | andImm | eorImm | subImm | rsbImm | addImm | adcImm | sbcImm | rscImm => true
  | orrImm | movImm | bicImm | mvnImm => true
  | _ => false

/-- The address that an instruction puts in the PC, if it does: the result of a data operation, a loaded word or the
target of a branch. -/
def dest : Case → Option UInt32
  | ldrtReg | ldrt => loadDest op a (wordUserLoad bus) (getaddr a (rn op))
  | ldrbtReg | ldrbt => loadDest op a (byteUserLoad bus) (getaddr a (rn op))
  | ldrReg | ldr => loadDest op a (wordLoad bus) (transferAddr op a)
  | ldrbReg | ldrb => loadDest op a (byteLoad bus) (transferAddr op a)
  | ldmd => ldmDest bus op a (downAddr op a)
  | ldmi => ldmDest bus op a (upAddr op a)
  | b | bl => some (a.reg 15 + branchOffset op)
  | c => if c.withoutS && rd op == 15 then c.aluResult op a else none

/-- The value that an instruction with the S bit, or LDM with `^`, gives to `arm_write_r15`. -/
def restoresFrom : Case → Option UInt32
  | ldmds => ldmDest bus op a (downAddr op a)
  | ldmis => ldmDest bus op a (upAddr op a)
  | c => if c.withS && rd op == 15 then c.aluResult op a else none

def fpaPlain : Bool :=
  match bus.fpa op a with
  | .wrote _ _ => true
  | _ => false

/-- A write of the control register that takes `prog32` away from a 32-bit mode. -/
def leavesProg32 : Bool := rn op == 1 && a.reg (rd op) &&& 0x10 == 0 && armMode32 a.mode

/-- The instructions that leave the status alone and take no exception. -/
def plain : Case → Bool
  | mrsCpsrSwp | mrsSpsrSwpb => isSwp op || isMrs op || !a.archV4
  | strtReg | ldrtReg | strbtReg | ldrbtReg | strReg | ldrReg | strbReg | ldrbReg => op &&& 0x10 == 0
  | strt | ldrt | strbt | ldrbt | str | ldr | strb | ldrb => true
  | stmd | stmi | stmds | stmis | ldmd | ldmi => true
  | ldmds | ldmis => !listsR15 op
  | b | bl => true
  | copro => (op &&& 0xf00 == 0x100 || op &&& 0xf00 == 0x200) && fpaPlain bus op a
  | mcr => if op &&& 0xf00 = 0x100 then fpaPlain bus op a else isCp15 op a && !leavesProg32 op a
  | mrc => if op &&& 0xf00 = 0x100 then fpaPlain bus op a else isCp15 op a
  | swi =>
    op &&& 0x00ffffff != swiBreakpoint &&
      match bus.swi (swinum op a) a with
      | .answered _ v _ => !v
      | .real _ => false
  | default => !a.archV4
  | c => c.withoutS

def fpaClobbers : Bool :=
  match bus.fpa op a with
  | .wrote (some r) _ => 15 ≤ r.1
  | _ => false

/-- Those that write R15 as a plain register: a multiplication or MRS to R15, a base of R15 that is written back, MRC
to R15. -/
def clobbers : Case → Bool
  | andReg | andsReg | eorReg | eorsReg => isMul op && mulRd op == 15
  | addReg | addsReg | adcReg | adcsReg | sbcReg | sbcsReg | rscReg | rscsReg =>
    isMulLong op a && (mulRd op == 15 || mulRn op == 15)
  | mrsCpsrSwp | mrsSpsrSwpb => !isSwp op && isMrs op && rd op == 15
  | strtReg | ldrtReg | strbtReg | ldrbtReg => op &&& 0x10 == 0 && rn op == 15
  | strt | ldrt | strbt | ldrbt => rn op == 15
  | strReg | ldrReg | strbReg | ldrbReg => op &&& 0x10 == 0 && writesBase op && rn op == 15
  | str | ldr | strb | ldrb => writesBase op && rn op == 15
  | copro => (op &&& 0xf00 == 0x100 || op &&& 0xf00 == 0x200) && fpaClobbers bus op a
  | mcr => op &&& 0xf00 == 0x100 && fpaClobbers bus op a
  | mrc =>
    if op &&& 0xf00 = 0x100 then fpaClobbers bus op a else isCp15 op a && rd op == 15
  | _ => false

end Case

end Tables

/-- The FPA names one of the sixteen registers. -/
def FpaFields (bus : Bus σ) : Prop :=
  ∀ op a r v w, bus.fpa op a = .wrote (some (r, v)) w → r < 16

/-! ## Instructions that leave the status alone -/

section Plain

variable (bus : Bus σ) {op : UInt32} {a : ArmState σ}

lemma moves_dataOp (o : Operand σ) (f : UInt32 → UInt32 → UInt32 → UInt32) :
    Moves (destOf (rd op) (dataResult op a o f)) a (dataOp o op a f) := moves_armWriteDest a op _

lemma moves_mulOp (h : Free a (mulRd op)) (acc : UInt32) : Moves none a (mulOp op a acc) :=
  Moves.setReg h _

lemma moves_mulLong (hd : Free a (mulRd op)) (hn : Free a (mulRn op)) (mulres : UInt64) :
    Moves none a (mulLong op a mulres) :=
  have hlow : Moves none a (a.setReg (mulRn op) mulres.toUInt32) := Moves.setReg hn _
  hlow.trans (Moves.setReg (hlow.free hd) _)

lemma moves_mrsCpsr (h : Free a (rd op)) : Moves none a (mrsCpsr op a) := by
  unfold mrsCpsr
  dsimp only
  split
  · exact Moves.setReg h _
  · rename_i h26
    have hset : ∀ (t : ArmState σ) v, t.mode = a.mode → Moves none t (t.setReg 16 v) := by
      intro t v ht
      refine ⟨SameMode.setReg t 16 v, fun _ => setReg_of_ne t (by decide) v, fun h32 => ?_⟩
      rw [ht] at h32
      exact absurd h32 h26
    have htwo := (hset a _ rfl).trans (hset (a.setReg 16 ((a.reg 15 &&& 0xf0000000) |||
      (a.reg 15 &&& 3))) (((a.setReg 16 ((a.reg 15 &&& 0xf0000000) ||| (a.reg 15 &&& 3))).reg 16) |||
        (((a.setReg 16 ((a.reg 15 &&& 0xf0000000) ||| (a.reg 15 &&& 3))).reg 15 &&&
          (0xc000000 : UInt32)) >>> 20)) rfl)
    exact htwo.trans (Moves.setReg (htwo.free h) _)

lemma moves_mrsSpsr (h : Free a (rd op)) : Moves none a (mrsSpsr op a) := Moves.setReg h _

lemma moves_branchOp : Moves (some (a.reg 15 + branchOffset op)) a (branch op a) :=
  moves_branch (UInt32.or_comm _ _)

lemma moves_branchLink : Moves (some (a.reg 15 + branchOffset op)) a (branchLink op a) := by
  have hlink : Moves none a (a.setReg 14 (a.reg 15 - 4)) :=
    Moves.setReg (free_of (by omega) (Or.inl (by omega))) _
  refine hlink.trans ?_
  have h15 : (a.setReg 14 (a.reg 15 - 4)).reg 15 = a.reg 15 := setReg_of_ne a (by decide) _
  unfold branchLink
  rw [← h15]
  exact moves_branch (UInt32.or_comm _ _)

lemma moves_fpaopcode (hfields : FpaFields bus) (hp : Case.fpaPlain bus op a = true)
    (h : armMode32 a.mode = true ∨ Case.fpaClobbers bus op a = false) :
    Moves none a (fpaopcode bus op a) := by
  unfold fpaopcode
  unfold Case.fpaPlain at hp
  unfold Case.fpaClobbers at h
  cases hf : bus.fpa op a with
  | wrote r w =>
    have hworld : Moves none a (a.withWorld w) := Moves.withWorld a w
    cases r with
    | none => exact hworld
    | some r =>
      have hfree : Free a r.1 := by
        refine free_of (hfields op a r.1 r.2 w hf) ?_
        rcases h with h | h
        · exact Or.inr h
        · rw [hf] at h
          exact Or.inl (by simp at h; omega)
      exact hworld.trans (Moves.setReg (hworld.free hfree) r.2)
  | compared flags w => simp [hf] at hp
  | undefined => simp [hf] at hp

lemma moves_mcr (hcp : isCp15 op a = true) (h : Case.leavesProg32 op a = false) :
    Moves none a (mcr bus op a) := by
  have hsame : ∀ w p, Moves none a { a with world := w, prog32 := p } := fun _ _ =>
    ⟨⟨rfl, rfl, rfl, rfl, rfl, rfl, rfl⟩, fun _ => rfl, fun _ => rfl⟩
  unfold mcr cp15Write
  rw [if_pos hcp]
  dsimp only
  split
  · rename_i h1
    split
    · rename_i hleaves
      simp only [Case.leavesProg32, h1, beq_self_eq_true, Bool.true_and] at h
      simp only [Bool.and_eq_true, Bool.not_eq_true', bne_eq_false_iff_eq] at hleaves
      rw [hleaves.1, hleaves.2] at h
      exact absurd h (by decide)
    · exact hsame _ _
  · exact hsame _ _

lemma moves_mrc (hcp : isCp15 op a = true) (h : armMode32 a.mode = true ∨ rd op ≠ 15) :
    Moves none a (mrc bus op a) := by
  unfold mrc
  rw [if_pos hcp]
  split
  · rename_i h15
    exact Moves.setReg (free_of (by omega) (h.elim Or.inr fun hne => absurd h15 hne)) _
  · rename_i h15
    exact Moves.setReg (free_of (rd_lt op) (Or.inl h15)) _

lemma moves_answered (regs : Nat → UInt32) (w : World σ) :
    Moves none a { a with reg := copyRegs 0 15 regs a.reg, world := w } :=
  ⟨⟨rfl, rfl, rfl, rfl, rfl, rfl, rfl⟩, fun _ => rfl, fun _ => rfl⟩

lemma unlessBit4_of {below : ArmState σ} (h : (op &&& 0x10 == 0) = true) :
    unlessBit4 op a below = below := if_neg (by simpa using h)

variable (hfields : FpaFields bus) (hu : UserPtrs a)
include hfields hu

/-- **Where a plain case goes.** -/
lemma moves_body (c : Case) (hplain : c.plain bus op a = true)
    (hclob : armMode32 a.mode = true ∨ c.clobbers bus op a = false) :
    Moves (c.dest bus op a) a (c.body bus op a) := by
  have hdest : ∀ (o : Operand σ) f, Moves (if rd op == 15 then some (dataResult op a o f) else none) a
      (dataOp o op a f) := by
    intro o f
    have h : Moves (destOf (rd op) (dataResult op a o f)) a (dataOp o op a f) := moves_dataOp o f
    simpa [destOf] using h
  have hfree : ∀ {r : Nat} {x : Bool}, r < 16 → x = true →
      (armMode32 a.mode = true ∨ (x && r == 15) = false) → Free a r := by
    intro r x hr hx h
    refine free_of hr (h.elim Or.inr fun h => Or.inl ?_)
    simpa [hx] using h
  cases c with
  | subReg | rsbReg | orrReg | movReg | bicReg | mvnReg => exact hdest _ _
  | andImm | eorImm | subImm | rsbImm | addImm | adcImm | sbcImm | rscImm => exact hdest _ _
  | orrImm | movImm | bicImm | mvnImm => exact hdest _ _
  | andReg | eorReg =>
    cases hm : isMul op with
    | true =>
      simp only [Case.body, Case.dest, Case.aluResult, hm, if_true, ite_self]
      exact moves_mulOp (hfree (field_lt op 16) hm hclob) _
    | false =>
      simp only [Case.body, Case.dest, Case.aluResult, hm, Bool.false_eq_true, if_false]
      exact hdest _ _
  | addReg | adcReg | sbcReg | rscReg =>
    cases hm : isMulLong op a with
    | true =>
      have hboth : ∀ {r : Nat}, r = mulRd op ∨ r = mulRn op → Free a r := by
        rintro r hr
        have hlt : r < 16 := by
          rcases hr with rfl | rfl
          · exact field_lt op 16
          · exact field_lt op 12
        refine free_of hlt (hclob.elim Or.inr fun h => Or.inl ?_)
        simp only [Case.clobbers, hm, Bool.true_and, Bool.or_eq_false_iff, beq_eq_false_iff_ne] at h
        rcases hr with rfl | rfl
        · exact h.1
        · exact h.2
      simp only [Case.body, Case.dest, Case.aluResult, hm, if_true, ite_self]
      exact moves_mulLong (hboth (Or.inl rfl)) (hboth (Or.inr rfl)) _
    | false =>
      simp only [Case.body, Case.dest, Case.aluResult, hm, Bool.false_eq_true, if_false]
      exact hdest _ _
  | mrsCpsrSwp =>
    cases hs : isSwp op with
    | true =>
      simp only [Case.body, hs, if_true]
      exact moves_swapOp (quiet_wordLoad bus) (quiet_wordStore bus)
    | false =>
      cases hm : isMrs op with
      | true =>
        simp only [Case.clobbers, hs, hm, Bool.not_false, Bool.true_and] at hclob
        simp only [Case.body, hs, hm, Bool.false_eq_true, if_false, if_true]
        exact moves_mrsCpsr (hfree (x := true) (rd_lt op) rfl hclob)
      | false =>
        have harch : a.archV4 = false := by simpa [Case.plain, hs, hm] using hplain
        simp only [Case.body, hs, hm, Bool.false_eq_true, if_false, unallocated, harch]
        exact Moves.refl a
  | mrsSpsrSwpb =>
    cases hs : isSwp op with
    | true =>
      simp only [Case.body, hs, if_true]
      exact moves_swapOp (quiet_byteLoad bus) (quiet_byteStore bus)
    | false =>
      cases hm : isMrs op with
      | true =>
        simp only [Case.clobbers, hs, hm, Bool.not_false, Bool.true_and] at hclob
        simp only [Case.body, hs, hm, Bool.false_eq_true, if_false, if_true]
        exact moves_mrsSpsr (hfree (x := true) (rd_lt op) rfl hclob)
      | false =>
        have harch : a.archV4 = false := by simpa [Case.plain, hs, hm] using hplain
        simp only [Case.body, hs, hm, Bool.false_eq_true, if_false, unallocated, harch]
        exact Moves.refl a
  | strtReg =>
    simp only [Case.body, unlessBit4_of hplain]
    exact moves_storeUser (quiet_wordUserStore bus) (hfree (rn_lt op) hplain hclob)
  | strbtReg =>
    simp only [Case.body, unlessBit4_of hplain]
    exact moves_storeUser (quiet_byteUserStore bus) (hfree (rn_lt op) hplain hclob)
  | ldrtReg =>
    simp only [Case.body, unlessBit4_of hplain]
    exact moves_loadUser (quiet_wordUserLoad bus) (hfree (rn_lt op) hplain hclob)
  | ldrbtReg =>
    simp only [Case.body, unlessBit4_of hplain]
    exact moves_loadUser (quiet_byteUserLoad bus) (hfree (rn_lt op) hplain hclob)
  | strt => exact moves_storeUser (quiet_wordUserStore bus) (hfree (x := true) (rn_lt op) rfl hclob)
  | strbt => exact moves_storeUser (quiet_byteUserStore bus) (hfree (x := true) (rn_lt op) rfl hclob)
  | ldrt => exact moves_loadUser (quiet_wordUserLoad bus) (hfree (x := true) (rn_lt op) rfl hclob)
  | ldrbt => exact moves_loadUser (quiet_byteUserLoad bus) (hfree (x := true) (rn_lt op) rfl hclob)
  | strReg =>
    simp only [Case.body, unlessBit4_of hplain]
    refine moves_storeSingle (quiet_wordStore bus) fun hw => ?_
    exact hfree (rn_lt op) (Bool.and_eq_true_iff.mpr ⟨hplain, hw⟩) hclob
  | strbReg =>
    simp only [Case.body, unlessBit4_of hplain]
    refine moves_storeSingle (quiet_byteStore bus) fun hw => ?_
    exact hfree (rn_lt op) (Bool.and_eq_true_iff.mpr ⟨hplain, hw⟩) hclob
  | ldrReg =>
    simp only [Case.body, unlessBit4_of hplain]
    refine moves_loadSingle (quiet_wordLoad bus) fun hw => ?_
    exact hfree (rn_lt op) (Bool.and_eq_true_iff.mpr ⟨hplain, hw⟩) hclob
  | ldrbReg =>
    simp only [Case.body, unlessBit4_of hplain]
    refine moves_loadSingle (quiet_byteLoad bus) fun hw => ?_
    exact hfree (rn_lt op) (Bool.and_eq_true_iff.mpr ⟨hplain, hw⟩) hclob
  | str => exact moves_storeSingle (quiet_wordStore bus) fun hw => hfree (rn_lt op) hw hclob
  | strb => exact moves_storeSingle (quiet_byteStore bus) fun hw => hfree (rn_lt op) hw hclob
  | ldr => exact moves_loadSingle (quiet_wordLoad bus) fun hw => hfree (rn_lt op) hw hclob
  | ldrb => exact moves_loadSingle (quiet_byteLoad bus) fun hw => hfree (rn_lt op) hw hclob
  | stmd | stmi => exact moves_of_baseOnly (BaseOnly.storeMultiple bus steady_reg _ _)
  | stmds | stmis => exact moves_of_baseOnly (BaseOnly.storeMultiple bus steady_usrregs _ _)
  | ldmd | ldmi => exact moves_armLoadMultiple bus _ _
  | ldmds | ldmis =>
    have hr15 : listsR15 op = false := by simpa [Case.plain] using hplain
    simp only [Case.body, multipleDown, multipleUp, armLoadMultipleS, hr15, Bool.false_eq_true,
      if_false]
    exact moves_loadMultiple bus _ _ (below_putUser hu) placing_putUser
  | b => exact moves_branchOp
  | bl => exact moves_branchLink
  | copro =>
    simp only [Case.plain, Bool.and_eq_true, Bool.or_eq_true, beq_iff_eq] at hplain
    simp only [Case.body, if_pos hplain.1]
    refine moves_fpaopcode bus hfields hplain.2 (hclob.imp_right fun h => ?_)
    simpa [Case.clobbers, hplain.1] using h
  | mcr =>
    simp only [Case.plain] at hplain
    simp only [Case.body]
    split
    · rename_i hfpa
      rw [if_pos hfpa] at hplain
      refine moves_fpaopcode bus hfields hplain (hclob.imp_right fun h => ?_)
      simpa [Case.clobbers, hfpa] using h
    · rename_i hfpa
      rw [if_neg hfpa, Bool.and_eq_true, Bool.not_eq_true'] at hplain
      exact moves_mcr bus hplain.1 hplain.2
  | mrc =>
    simp only [Case.plain] at hplain
    simp only [Case.body]
    split
    · rename_i hfpa
      rw [if_pos hfpa] at hplain
      refine moves_fpaopcode bus hfields hplain (hclob.imp_right fun h => ?_)
      simpa [Case.clobbers, hfpa] using h
    · rename_i hfpa
      rw [if_neg hfpa] at hplain
      refine moves_mrc bus hplain (hclob.imp_right fun h => ?_)
      simpa [Case.clobbers, hfpa, hplain] using h
  | swi =>
    simp only [Case.plain, Bool.and_eq_true, bne_iff_ne, ne_eq] at hplain
    simp only [Case.body, opSWI, if_neg hplain.1]
    cases hs : bus.swi (swinum op a) a with
    | answered regs v w =>
      simp only [hs, Bool.not_eq_true'] at hplain
      simp only [hplain.2, Bool.false_eq_true, if_false]
      exact moves_answered regs w
    | real w => simp [hs] at hplain
  | default =>
    have harch : a.archV4 = false := by simpa [Case.plain] using hplain
    simp only [Case.body, unallocated, harch, Bool.false_eq_true, if_false]
    exact Moves.refl a
  | _ => exact absurd hplain (by simp [Case.plain, Case.withoutS])

end Plain

/-! ## Instructions that restore the status -/

section Restores

variable (bus : Bus σ) {op : UInt32} {a : ArmState σ}

lemma listsR15_of_ldmDest {address v : UInt32} (h : ldmDest bus op a address = some v) :
    listsR15 op = true := by
  unfold ldmDest at h
  split at h
  · rename_i hall
    simp only [Bool.and_eq_true] at hall
    exact hall.1.1
  · exact absurd h (by simp)

lemma restores_armLoadMultipleS {address v : UInt32} (writeback : UInt32)
    (h : ldmDest bus op a address = some v) :
    ∃ t, Moves none a t ∧ armLoadMultipleS bus op a address writeback = armWriteR15 t v := by
  have hr15 := listsR15_of_ldmDest bus h
  unfold armLoadMultipleS
  rw [if_pos hr15]
  rcases loadMultiple_r15_cases bus address writeback below_setReg placing_setReg armWriteR15 hr15
    with ⟨hnone, -⟩ | ⟨t, u, hsome, ht, heq⟩
  · rw [hnone] at h
    exact absurd h (by simp)
  · rw [hsome] at h
    exact ⟨t, ht, by rw [heq, Option.some.inj h]⟩

lemma body_withS {c : Case} (hs : c.withS = true) (h15 : rd op = 15) {v : UInt32}
    (h : c.aluResult op a = some v) : c.body bus op a = armWriteR15 a v := by
  have hlogical : ∀ (o : Operand σ) (f : UInt32 → UInt32 → UInt32),
      some (dataResult op a o fun l r _ => f l r) = some v → logicalOpS o op a f = armWriteR15 a v := by
    intro o f hv
    rw [← Option.some.inj hv]
    exact if_pos h15
  have harith : ∀ (o : Operand σ) f flags,
      some (dataResult op a o f) = some v → arithOpS o op a f flags = armWriteR15 a v := by
    intro o f flags hv
    rw [← Option.some.inj hv]
    exact if_pos h15
  cases c with
  | andsReg | eorsReg =>
    cases hm : isMul op with
    | true => simp [Case.aluResult, hm] at h
    | false =>
      simp only [Case.aluResult, hm, Bool.false_eq_true, if_false] at h
      simp only [Case.body, hm, Bool.false_eq_true, if_false]
      exact hlogical _ _ h
  | addsReg | adcsReg | sbcsReg | rscsReg =>
    cases hm : isMulLong op a with
    | true => simp [Case.aluResult, hm] at h
    | false =>
      simp only [Case.aluResult, hm, Bool.false_eq_true, if_false] at h
      simp only [Case.body, hm, Bool.false_eq_true, if_false]
      exact harith _ _ _ h
  | subsImm =>
    rw [← Option.some.inj h]
    exact if_pos h15
  | subsReg | rsbsReg | rsbsImm | addsImm | adcsImm | sbcsImm | rscsImm => exact harith _ _ _ h
  | orrsReg | movsReg | bicsReg | mvnsReg =>
    simp only [Case.aluResult] at h
    simp only [Case.body]
    exact hlogical _ _ h
  | andsImm | eorsImm | orrsImm | movsImm | bicsImm | mvnsImm =>
    simp only [Case.aluResult] at h
    simp only [Case.body]
    exact hlogical _ _ h
  | _ => exact absurd hs (by simp [Case.withS])

/-- **What restores the status goes through `arm_write_r15`.** -/
lemma restores_body {c : Case} {v : UInt32} (h : c.restoresFrom bus op a = some v) :
    ∃ t, Moves none a t ∧ c.body bus op a = armWriteR15 t v := by
  have hdata : (c.withS && rd op == 15) = true → c.aluResult op a = some v →
      ∃ t, Moves none a t ∧ c.body bus op a = armWriteR15 t v := by
    intro hs hv
    simp only [Bool.and_eq_true, beq_iff_eq] at hs
    exact ⟨a, Moves.refl a, body_withS bus hs.1 hs.2 hv⟩
  cases c with
  | ldmds =>
    have hdest : ldmDest bus op a (downAddr op a) = some v := h
    exact restores_armLoadMultipleS bus (a.reg (rn op) - armLdmStmOffset op) hdest
  | ldmis =>
    have hdest : ldmDest bus op a (upAddr op a) = some v := h
    exact restores_armLoadMultipleS bus (a.reg (rn op) + armLdmStmOffset op) hdest
  | _ =>
    simp only [Case.restoresFrom] at h
    split at h
    · rename_i hs
      exact hdata hs h
    · exact absurd h (by simp)

end Restores

/-! ## The whole instruction -/

section Opcode

variable (bus : Bus σ) (op : UInt32) (a : ArmState σ)

def ldrhLoad : Load σ := fun a addr =>
  let r := memRead32 bus a (addr &&& ~~~3)
  (if addr &&& 2 ≠ 0 then r.1 >>> 16 else r.1 &&& 0xffff, r.2)

def ldrshLoad : Load σ := fun a addr =>
  let r := memRead32 bus a (addr &&& ~~~3)
  (if addr &&& 2 ≠ 0 then asr r.1 16 else r.1.toUInt16.toInt16.toInt32.toUInt32, r.2)

def ldrsbLoad : Load σ := fun a addr =>
  let r := memRead8 bus a addr
  (r.1.toInt8.toInt32.toUInt32, r.2)

def opDest : Option UInt32 :=
  if a.archV4 && isHalf op then
    if op &&& 0x100000 ≠ 0 then loadDest op a (ldrhLoad bus) (halfAddr op a) else none
  else if a.archV4 && isSigned op then
    if op &&& 0xf0 = 0xd0 then loadDest op a (ldrsbLoad bus) (halfAddr op a)
    else loadDest op a (ldrshLoad bus) (halfAddr op a)
  else (switchCase (opIndex op)).dest bus op a

def isExtended : Bool := a.archV4 && (isHalf op || isSigned op)

def opPlain : Bool := isExtended op a || (switchCase (opIndex op)).plain bus op a

def opClobbers : Bool :=
  if isExtended op a then writesBase op && rn op == 15
  else (switchCase (opIndex op)).clobbers bus op a

variable {op a}

lemma isExtended_of_half (h : (a.archV4 && isHalf op) = true) : isExtended op a = true := by
  simp only [Bool.and_eq_true] at h
  simp [isExtended, h]

lemma isExtended_of_signed (h : (a.archV4 && isSigned op) = true) : isExtended op a = true := by
  simp only [Bool.and_eq_true] at h
  simp [isExtended, h]

lemma isExtended_of_neither (h : ¬ (a.archV4 && isHalf op) = true)
    (h' : ¬ (a.archV4 && isSigned op) = true) : isExtended op a = false := by
  rw [Bool.not_eq_true] at h h'
  simp [isExtended, Bool.and_or_distrib_left, h, h']

lemma moves_extended (hext : isExtended op a = true)
    (hclob : armMode32 a.mode = true ∨ opClobbers bus op a = false) :
    Moves (opDest bus op a) a (armOpcode bus op a) := by
  have hbase : writesBase op = true → Free a (rn op) := by
    intro hw
    refine free_of (rn_lt op) (hclob.elim Or.inr fun h => Or.inl ?_)
    simpa [opClobbers, hext, hw] using h
  unfold opDest armOpcode
  split
  · split
    · exact moves_loadHalf (fun a _ => Moves.withWorld a _) hbase
    · exact moves_armStrh bus hbase
  · rename_i hhalf
    split
    · split
      · exact moves_loadHalf (fun a _ => Moves.withWorld a _) hbase
      · exact moves_loadHalf (fun a _ => Moves.withWorld a _) hbase
    · rename_i hsigned
      rw [isExtended_of_neither hhalf hsigned] at hext
      exact absurd hext (by decide)

lemma armOpcode_switch (hext : isExtended op a = false) :
    armOpcode bus op a = (switchCase (opIndex op)).body bus op a ∧
      opDest bus op a = (switchCase (opIndex op)).dest bus op a := by
  have hhalf : ¬ (a.archV4 && isHalf op) = true := fun h => by
    rw [isExtended_of_half h] at hext
    exact absurd hext (by decide)
  have hsigned : ¬ (a.archV4 && isSigned op) = true := fun h => by
    rw [isExtended_of_signed h] at hext
    exact absurd hext (by decide)
  unfold opDest armOpcode
  rw [if_neg hhalf, if_neg hsigned, if_neg hhalf, if_neg hsigned]
  exact ⟨rfl, rfl⟩

/-- **Where a plain instruction goes.** -/
lemma moves_armOpcode (hfields : FpaFields bus) (hu : UserPtrs a) (hplain : opPlain bus op a = true)
    (hclob : armMode32 a.mode = true ∨ opClobbers bus op a = false) :
    Moves (opDest bus op a) a (armOpcode bus op a) := by
  cases hext : isExtended op a with
  | true => exact moves_extended bus hext hclob
  | false =>
    obtain ⟨hbody, hdest⟩ := armOpcode_switch bus hext
    rw [hbody, hdest]
    refine moves_body bus hfields hu _ ?_ (hclob.imp_right fun h => ?_)
    · simpa [opPlain, hext] using hplain
    · simpa [opClobbers, hext] using h

end Opcode

end RpcEmu.Arm
