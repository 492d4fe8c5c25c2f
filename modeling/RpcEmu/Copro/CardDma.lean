import RpcEmu.Copro.CardRun
import RpcEmu.Cpu.Rv32i

/-!
# DMA and the bounds of card RAM

A transfer is checked once, when it is started (`coprocStartDma`), and run later, over as many
timeslices as it needs.  In between the guest is free to rewrite every register, and the loop that
moves the words checks nothing but that there are some left.

**The gap.**  Nothing stops the guest from rewriting DMALOCAL or DMALEN while a transfer is in
progress, and nothing stops the transfer from writing the card's own registers (`TransferLeftAlone`).
-/

namespace RpcEmu

open Effects Runs

variable {σ η : Type} (ops : CoreOps σ) (host : HostBus η)

/-- What the check establishes and what moving a word preserves: the words still to move lie in card RAM. -/
def DmaFits (cp : Coproc σ η) : Prop :=
  cp.dmaLen ≠ 0 → cp.dmaLocal.toNat + 4 * cp.dmaLen.toNat ≤ cp.bus.ramSize.toNat

/-- Every index a timeslice's DMA uses is inside the RAM. -/
def DmaInside (cp : Coproc σ η) : CardEvent → Prop
  | .run cycles => ∀ s ∈ dmaSeen ops host cp cycles, ∀ i ∈ dmaIndexes s, i < s.bus.ramSize
  | _ => True

/-- A register write while a transfer is in progress leaves what is still to move inside card RAM;
and a transfer to the host is not aimed at the card's own registers. -/
def TransferLeftAlone (cp : Coproc σ η) : CardEvent → Prop
  | .regWrite offset _ val =>
    cp.dmaBusy = true →
      (coprocReg offset = some .dmaLocal → cp.dmaLen ≠ 0 →
        val.toNat + 4 * cp.dmaLen.toNat ≤ cp.bus.ramSize.toNat) ∧
      (coprocReg offset = some .dmaLen → val ≠ 0 →
        cp.dmaLocal.toNat + 4 * val.toNat ≤ cp.bus.ramSize.toNat)
  | .run _ =>
    cp.dmaBusy = true → cp.dmaToHost = true →
      ∀ k < cp.dmaLen.toNat, host.window (cp.dmaHost + 4 * UInt32.ofNat k) = none
  | _ => True

/-! ## One word -/

lemma dmaMove_frame {cp : Coproc σ η}
    (hw : cp.dmaToHost = true → host.window cp.dmaHost = none) :
    (dmaMove ops host cp).dmaLocal = cp.dmaLocal ∧ (dmaMove ops host cp).dmaLen = cp.dmaLen ∧
      (dmaMove ops host cp).dmaHost = cp.dmaHost ∧
      (dmaMove ops host cp).dmaToHost = cp.dmaToHost ∧
      (dmaMove ops host cp).bus.ramSize = cp.bus.ramSize := by
  have hread : ∀ addr, (openbusMasterRead32 ops host cp addr).2.dmaLocal = cp.dmaLocal ∧
      (openbusMasterRead32 ops host cp addr).2.dmaLen = cp.dmaLen ∧
      (openbusMasterRead32 ops host cp addr).2.dmaHost = cp.dmaHost ∧
      (openbusMasterRead32 ops host cp addr).2.dmaToHost = cp.dmaToHost ∧
      (openbusMasterRead32 ops host cp addr).2.bus.ramSize = cp.bus.ramSize := by
    intro addr
    unfold openbusMasterRead32
    cases host.window addr with
    | none => exact ⟨rfl, rfl, rfl, rfl, rfl⟩
    | some offset =>
      simp only [coprocRegRead, apertureRead, ctlApertureRead]
      split
      · split_ifs <;> exact ⟨rfl, rfl, rfl, rfl, rfl⟩
      · split_ifs <;> exact ⟨rfl, rfl, rfl, rfl, rfl⟩
      · exact ⟨rfl, rfl, rfl, rfl, rfl⟩
  cases hd : cp.dmaToHost with
  | true =>
    simp [dmaMove, hd, openbusMasterWrite32, hw hd]
  | false =>
    simp only [dmaMove, hd, Bool.false_eq_true, if_false]
    obtain ⟨h1, h2, h3, h4, h5⟩ := hread cp.dmaHost
    exact ⟨h1, h2, h3, h4.trans hd, h5⟩

/-- The transfer fits, and what it writes is no card's own register. -/
structure DmaGood (cp : Coproc σ η) : Prop where
  fits : DmaFits cp
  away : cp.dmaToHost = true →
    ∀ k < cp.dmaLen.toNat, host.window (cp.dmaHost + 4 * UInt32.ofNat k) = none

lemma toNat_sub_one_of_ne {x : UInt32} (h : x ≠ 0) : (x - 1).toNat = x.toNat - 1 := by
  have hpos : x.toNat ≠ 0 := fun hc => h (UInt32.toNat_inj.mp hc)
  rw [UInt32.toNat_sub_of_le]
  · rfl
  · rw [UInt32.le_iff_toNat_le]
    show 1 ≤ x.toNat
    omega

lemma dmaWord_away {cp : Coproc σ η} (hlen : cp.dmaLen ≠ 0)
    (h : cp.dmaToHost = true → ∀ k < cp.dmaLen.toNat, host.window (cp.dmaHost + 4 * UInt32.ofNat k) = none) :
    (cp.dmaToHost = true → host.window cp.dmaHost = none) ∧ (dmaWord ops host cp).dmaLen = cp.dmaLen - 1 ∧
      ((dmaWord ops host cp).dmaToHost = true → ∀ k < (dmaWord ops host cp).dmaLen.toNat,
        host.window ((dmaWord ops host cp).dmaHost + 4 * UInt32.ofNat k) = none) := by
  have hlen' : cp.dmaLen.toNat ≠ 0 := fun hc => hlen (UInt32.toNat_inj.mp hc)
  have haway : cp.dmaToHost = true → host.window cp.dmaHost = none := by
    intro hd
    have h0 := h hd 0 (by omega)
    rwa [show (4 : UInt32) * UInt32.ofNat 0 = 0 from rfl, UInt32.add_zero] at h0
  obtain ⟨-, hln, hhost, hdir, -⟩ := dmaMove_frame ops host haway
  have hsub := toNat_sub_one_of_ne hlen
  refine ⟨haway, congrArg (· - 1) hln, fun hd k hk => ?_⟩
  have hk' : k < (cp.dmaLen - 1).toNat := hln ▸ hk
  have hnext := h (hdir ▸ hd) (k + 1) (by omega)
  show host.window ((dmaMove ops host cp).dmaHost + 4 + 4 * UInt32.ofNat k) = none
  rw [hhost]
  have he : cp.dmaHost + 4 + 4 * UInt32.ofNat k = cp.dmaHost + 4 * UInt32.ofNat (k + 1) := by
    rw [UInt32.ofNat_add, UInt32.mul_add, UInt32.add_assoc, UInt32.add_comm 4]
    rfl
  rw [he]
  exact hnext

/-- **One word**: its indexes are in range, and what is left still fits. -/
lemma dmaWord_good {cp : Coproc σ η} (h : DmaGood host cp) (hlen : cp.dmaLen ≠ 0) :
    (∀ i ∈ dmaIndexes cp, i < cp.bus.ramSize) ∧ DmaGood host (dmaWord ops host cp) := by
  have hfits := h.fits hlen
  have hlen' : cp.dmaLen.toNat ≠ 0 := fun hc => hlen (UInt32.toNat_inj.mp hc)
  have hsize := cp.bus.ramSize.toNat_lt
  obtain ⟨haway, -, haway'⟩ := dmaWord_away ops host hlen h.away
  obtain ⟨hloc, hln, -, -, hram⟩ := dmaMove_frame ops host haway
  have hsub := toNat_sub_one_of_ne hlen
  refine ⟨?_, ?_, ?_⟩
  · intro i hi
    have hadd : ∀ k : UInt32, k.toNat < 4 → cp.dmaLocal + k < cp.bus.ramSize := by
      intro k hk
      rw [UInt32.lt_iff_toNat_lt, UInt32.toNat_add]
      omega
    simp only [dmaIndexes, List.mem_cons, List.not_mem_nil, or_false] at hi
    rcases hi with rfl | rfl | rfl | rfl
    · simpa using hadd 0 (by decide)
    · exact hadd 1 (by decide)
    · exact hadd 2 (by decide)
    · exact hadd 3 (by decide)
  · intro _
    show ((dmaMove ops host cp).dmaLocal + 4).toNat + 4 * ((dmaMove ops host cp).dmaLen - 1).toNat
      ≤ (dmaMove ops host cp).bus.ramSize.toNat
    rw [hloc, hln, hram, hsub, UInt32.toNat_add]
    simp only [UInt32.reduceToNat]
    omega
  · exact haway'

/-! ## The loops -/

/-- **A whole timeslice's transfer**: every index in range, and what is left still fits. -/
lemma dmaCycles_good (budget : Nat) {cp : Coproc σ η} (h : DmaGood host cp) :
    (∀ s ∈ (dmaCycles ops host budget cp).1, ∀ i ∈ dmaIndexes s, i < s.bus.ramSize) ∧
      DmaGood host (dmaCycles ops host budget cp).2.2 := by
  obtain ⟨hseen, hlast⟩ := dmaCycles_inv (C := fun _ => True) ops host
    (fun cp hg hlen _ => (dmaWord_good ops host hg hlen).2) budget h fun _ _ => trivial
  refine ⟨fun s hs => ?_, hlast⟩
  exact (dmaWord_good ops host (hseen s hs).1 (hseen s hs).2).1

/-! ## Everything else leaves a transfer alone -/

def Coproc.dma (cp : Coproc σ η) : UInt32 × UInt32 × Bool := (cp.dmaLocal, cp.dmaLen, cp.dmaBusy)

/-- A transfer under way has passed the check. -/
def DmaChecked (cp : Coproc σ η) : Prop := cp.dmaBusy = true → DmaFits cp

lemma DmaChecked.of_same {cp cp' : Coproc σ η} (h : DmaChecked cp) (hd : cp'.dma = cp.dma)
    (hs : cp'.bus.sizes = cp.bus.sizes) : DmaChecked cp' := by
  simp only [Coproc.dma, Prod.mk.injEq] at hd
  simp only [CoproBus.sizes, Prod.mk.injEq] at hs
  intro hb hl
  rw [hd.1, hd.2.1, hs.2.1]
  exact h (hd.2.2 ▸ hb) (hd.2.1 ▸ hl)

lemma DmaChecked.of_idle {cp : Coproc σ η} (h : cp.dmaBusy = false) : DmaChecked cp := by
  intro hb
  rw [h] at hb
  exact absurd hb (by decide)

lemma coprocNoteStop_dma (cp : Coproc σ η) : (coprocNoteStop ops host cp).dma = cp.dma := by
  simp only [coprocNoteStop]
  split_ifs <;> rfl

lemma coprocReset_idle (cp : Coproc σ η) : (coprocReset ops host cp).dmaBusy = false := rfl

/-- **The check**: a transfer it lets start fits. -/
lemma coprocStartDma_checked {cp : Coproc σ η} (h : DmaChecked cp) :
    DmaChecked (coprocStartDma cp) := by
  unfold coprocStartDma
  split_ifs with h1 h2 h3 h4
  · exact h
  · exact h
  · exact h
  · exact h
  · intro _ _
    show cp.dmaLocal.toNat + 4 * cp.dmaLen.toNat ≤ cp.bus.ramSize.toNat
    rw [UInt32.not_le, UInt32.lt_iff_toNat_lt] at h3
    rw [UInt32.not_lt, UInt32.le_iff_toNat_le, UInt32.toNat_div,
      UInt32.toNat_sub_of_le _ _ (UInt32.le_iff_toNat_le.mpr (Nat.le_of_lt h3))] at h4
    simp only [UInt32.reduceToNat] at h4
    omega

lemma coprocRegWrite_checked {cp : Coproc σ η} (h : DmaChecked cp) {offset : UInt32}
    {size : OpenbusSize} {val : UInt32}
    (hc : TransferLeftAlone host cp (.regWrite offset size val)) :
    DmaChecked (coprocRegWrite ops host cp offset size val) := by
  have hsizes : (coprocRegWrite ops host cp offset size val).bus.sizes = cp.bus.sizes :=
    cardStep_sizes ops host cp (.regWrite offset size val)
  cases hreg : coprocReg offset with
  | none =>
    rw [coprocRegWrite, hreg]
    exact h
  | some reg =>
    cases reg with
    | dmaLocal =>
      rw [coprocRegWrite, hreg]
      intro hb hl
      exact (hc hb).1 hreg hl
    | dmaLen =>
      rw [coprocRegWrite, hreg]
      intro hb hl
      exact (hc hb).2 hreg hl
    | dmaCtrl =>
      simp only [coprocRegWrite, hreg]
      have h' : DmaChecked { cp with dmaToHost := decide (val &&& dmaToHostBit ≠ 0) } := h
      split_ifs
      · exact coprocStartDma_checked h'
      · exact h'
    | ctrl =>
      by_cases hr : val &&& ctrlReset ≠ 0
      · refine DmaChecked.of_idle ?_
        simp only [coprocRegWrite, hreg, coprocWriteCtrl, if_pos hr]
        exact coprocReset_idle ops host cp
      · refine h.of_same ?_ hsizes
        simp only [coprocRegWrite, hreg, coprocWriteCtrl, if_neg hr]
        split_ifs
        · rw [coprocNoteStop_dma]
          rfl
        · rw [coprocNoteStop_dma]
          rfl
        · rfl
        · rfl
    | data =>
      refine h.of_same ?_ hsizes
      simp only [coprocRegWrite, hreg, apertureWrite]
      split_ifs <;> rfl
    | ctlData =>
      refine h.of_same ?_ hsizes
      simp only [coprocRegWrite, hreg, ctlApertureWrite]
      split_ifs <;> rfl
    | irqctrl =>
      refine h.of_same ?_ hsizes
      simp only [coprocRegWrite, hreg, coprocApplyInterrupts]
      split_ifs <;> rfl
    | mapCount =>
      refine h.of_same ?_ hsizes
      simp only [coprocRegWrite, hreg, coprocWriteMapCount]
      split_ifs <;> rfl
    | waitAck =>
      refine h.of_same ?_ hsizes
      simp only [coprocRegWrite, hreg, coprocWriteWaitAck]
      split_ifs <;> rfl
    | logTail =>
      refine h.of_same ?_ hsizes
      simp only [coprocRegWrite, hreg, coprocWriteLogTail]
      split_ifs <;> rfl
    | irqClear =>
      refine h.of_same ?_ hsizes
      simp only [coprocRegWrite, hreg, coprocDropIrq]
      split_ifs <;> rfl
    | _ =>
      refine h.of_same ?_ hsizes
      simp [coprocRegWrite, hreg, Coproc.dma, Coproc.setBus]

lemma coprocRegRead_checked {cp : Coproc σ η} (h : DmaChecked cp) (offset : UInt32)
    (size : OpenbusSize) : DmaChecked (coprocRegRead ops cp offset size).2 := by
  refine h.of_same ?_ (by rw [coprocRegRead_bus])
  simp only [coprocRegRead, apertureRead, ctlApertureRead]
  split
  · split_ifs <;> rfl
  · split_ifs <;> rfl
  · split <;> rfl

lemma coprocChargeRunfor_dma (cp : Coproc σ η) (ran : Nat) :
    (coprocChargeRunfor cp ran).dma = cp.dma := by
  simp only [coprocChargeRunfor]
  split_ifs <;> rfl

lemma coprocStopReason_dma (cp : Coproc σ η) : (coprocStopReason ops cp).dma = cp.dma := by
  unfold coprocStopReason
  split_ifs <;> rfl

lemma coprocRunCore_dma (cp : Coproc σ η) (budget : Nat) :
    (coprocRunCore ops host cp budget).2.dma = cp.dma := by
  simp only [coprocRunCore]
  rw [coprocNoteStop_dma, coprocStopReason_dma, coprocChargeRunfor_dma]
  rfl

lemma coprocRunRest_dma (used : Nat) (cp : Coproc σ η) (cycles : Int) :
    (coprocRunRest ops host used cp cycles).2.dma = cp.dma := by
  simp only [coprocRunRest]
  split_ifs
  · exact coprocRunCore_dma ops host cp _
  · rfl
  · rfl

lemma coprocRun_checked {cp : Coproc σ η} (h : DmaChecked cp) {cycles : Int}
    (hc : TransferLeftAlone host cp (.run cycles)) :
    DmaInside ops host cp (.run cycles) ∧ DmaChecked (coprocRun ops host cp cycles).2 := by
  have hrest : ∀ cp' : Coproc σ η, DmaChecked cp' → ∀ used,
      DmaChecked (coprocRunRest ops host used cp' cycles).2 := by
    intro cp' h' used
    refine h'.of_same (coprocRunRest_dma ops host used cp' cycles) ?_
    simp only [coprocRunRest]
    split_ifs
    · rw [coprocRunCore_bus, exec_busStep_sizes]
    · rfl
    · rfl
  cases hb : cp.dmaBusy with
  | false =>
    refine ⟨fun s hs => absurd hs (by simp [dmaSeen, hb]), ?_⟩
    unfold coprocRun
    split_ifs
    · exact h
    · simp only [coprocRunTransfer, hb, Bool.false_eq_true, if_false]
      exact hrest cp h 0
  | true =>
    have hgood : DmaGood host cp := ⟨h hb, hc hb⟩
    obtain ⟨hin, hlast⟩ := dmaCycles_good ops host cycles.toNat hgood
    refine ⟨fun s hs => ?_, ?_⟩
    · simp only [dmaSeen, hb, if_true] at hs
      exact hin s hs
    · unfold coprocRun
      split_ifs
      · exact h
      · simp only [coprocRunTransfer, hb, if_true]
        apply hrest
        simp only [coprocRunDma]
        split_ifs
        · exact DmaChecked.of_idle rfl
        · exact fun _ => hlast.fits

/-- **One event.** -/
lemma cardStep_checked {cp : Coproc σ η} (h : DmaChecked cp) (e : CardEvent)
    (hc : TransferLeftAlone host cp e) :
    DmaInside ops host cp e ∧ DmaChecked (cardStep ops host cp e) := by
  cases e with
  | regRead offset size => exact ⟨trivial, coprocRegRead_checked ops h offset size⟩
  | regWrite offset size val => exact ⟨trivial, coprocRegWrite_checked ops host h hc⟩
  | run cycles => exact coprocRun_checked ops host h hc
  | reset => exact ⟨trivial, DmaChecked.of_idle (coprocReset_idle ops host cp)⟩
  | access e =>
    exact ⟨trivial, h.of_same rfl (cardStep_sizes ops host cp (.access e))⟩
  | logPop => exact ⟨trivial, h.of_same rfl (cardStep_sizes ops host cp .logPop)⟩

/-- **DMA stays inside card RAM along every history that leaves a running transfer alone.**  Any
core, any host, any RAM size the card accepts. -/
theorem dmaInside_of_transferLeftAlone (core : OpenbusCoprocCore) (bytes : UInt32) (init : σ) (h : η)
    (es : List CardEvent)
    (hc : Along (cardStep ops host) (TransferLeftAlone host)
      (openbusCoprocFit ops core bytes init h) es) :
    Along (cardStep ops host) (DmaInside ops host) (openbusCoprocFit ops core bytes init h) es := by
  refine along_of_inv (I := DmaChecked) ?_ ?_ es _ (DmaChecked.of_idle rfl) hc
  · intro cp e hcp he
    exact (cardStep_checked ops host hcp e he).2
  · intro cp e hcp he
    exact (cardStep_checked ops host hcp e he).1

theorem dmaInside_last_words :
    Along (cardStep rv32iOps emptyHost) (DmaInside rv32iOps emptyHost) rv32iCard
      [.regWrite 0x40 .size32 0xff8, .regWrite 0x44 .size32 2, .regWrite 0x48 .size32 1, .run 1,
        .run 64] := by
  refine dmaInside_of_transferLeftAlone rv32iOps emptyHost .rv32i 0x1000 (rv32iInit true 0x1000) ()
    _ ?_
  simp only [along_cons, along_nil, and_true]
  refine ⟨fun hb => ?_, fun hb => ?_, fun hb => ?_, fun _ _ _ _ => rfl, fun _ _ _ _ => rfl⟩
  · exact absurd hb (by decide)
  · exact absurd hb (by decide)
  · exact absurd hb (by decide)

/-- **The gap.**  One word is checked and started at address 0; DMALOCAL is then rewritten, and the
next timeslice stores far outside card RAM. -/
theorem dma_leaves_ram :
    ¬ ∀ es : List CardEvent,
      Along (cardStep rv32iOps emptyHost) (DmaInside rv32iOps emptyHost) rv32iCard es := by
  intro h
  have hrun := h [.regWrite 0x44 .size32 1, .regWrite 0x48 .size32 1,
    .regWrite 0x40 .size32 0xfffffffc, .run 1]
  simp only [along_cons, along_nil, and_true] at hrun
  obtain ⟨-, -, -, hrun⟩ := hrun
  have hlt := hrun _ (List.mem_singleton.mpr rfl) 0xfffffffc (by decide)
  exact absurd hlt (by decide)

end RpcEmu
