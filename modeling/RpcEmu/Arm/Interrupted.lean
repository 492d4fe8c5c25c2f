import RpcEmu.Arm.PsrBits

/-!
# Interrupted code

An exception saves the status and R15 and changes the mode; `SUBS PC, R14, #n` puts them back.  Between
the two a handler writes what it likes, and the banks keep from it what it cannot put back itself.
-/

namespace RpcEmu.Arm

open Masks Pages

variable {σ : Type}

/-! ## What an exception leaves -/

/-- The mode that `exception` enters. -/
def entered (a : ArmState σ) (mmode : UInt32) : UInt32 :=
  if armMode32 a.mode || a.prog32 then 0x10 ||| mmode
  else if supervisor ≤ mmode then supervisor else mmode

/-- What `exception` leaves in R14. -/
def linkOf (a : ArmState σ) (diff : UInt32) : UInt32 :=
  if !armMode32 a.mode && a.prog32 then (a.reg 15 - diff) &&& pcBits else a.reg 15 - diff

/-- The status that `exception` leaves in the SPSR. -/
def savedPsr (a : ArmState σ) (mmode diff : UInt32) : UInt32 :=
  if armMode32 a.mode then a.reg 16
  else ((movedR16 a.mode (0x10 ||| mmode) (a.reg 15) (a.reg 16) &&& ~~~0x1f) |||
    ((a.reg 15 - diff) &&& 3)) &&& ~~~0x10

lemma exception_modes {mmode : UInt32} (h : isExceptionMode mmode = true) :
    mmode = 1 ∨ mmode = 2 ∨ mmode = 3 ∨ mmode = 7 ∨ mmode = 11 := by
  simpa [isExceptionMode, fiq, irq, supervisor, abort, undefined] using h

section Exception

variable (a : ArmState σ) (mmode address diff : UInt32)

lemma exception_mode : (exception a mmode address diff).mode = entered a mmode := by
  unfold exception entered
  dsimp only
  split
  · rename_i h32
    rw [h32, Bool.true_or, if_pos rfl]
    exact updatemode_mode _ _
  · rename_i h32
    rw [Bool.not_eq_true] at h32
    split
    · rename_i hp
      rw [hp, Bool.or_true, if_pos rfl]
      exact updatemode_mode _ _
    · rename_i hp
      rw [Bool.not_eq_true] at hp
      rw [h32, hp]
      exact updatemode_mode _ _

lemma follows_exception : Follows (exception a mmode address diff) := by
  have hkept : ∀ {t : ArmState σ} (m : UInt32) (reg spsr : Nat → UInt32),
      Follows { updatemode t m with reg := reg, spsr := spsr } := by
    intro t m reg spsr
    obtain ⟨hmmask, hmask, hcpsr, hmemmode⟩ := follows_updatemode t m
    exact ⟨hmmask, hmask, hcpsr, hmemmode⟩
  unfold exception
  dsimp only
  split
  · exact hkept _ _ _
  · split <;> exact hkept _ _ _

lemma exception_spsr (h : armMode32 (entered a mmode) = true) (hm : isExceptionMode mmode = true) :
    (exception a mmode address diff).spsr mmode.toNat = savedPsr a mmode diff := by
  unfold exception savedPsr
  dsimp only
  split
  · exact (congrFun (sameRest_updatemode _ _).spsr _).trans (Function.update_self _ _ _)
  · rename_i h32
    rw [Bool.not_eq_true] at h32
    split
    · simp only [ArmState.setReg, Function.update_self, ne_eq, Nat.reduceEqDiff, not_false_eq_true,
        Function.update_of_ne, updatemode_r16]
    · rename_i hp
      rw [Bool.not_eq_true] at hp
      rw [entered, h32, hp, if_neg (by decide)] at h
      rcases exception_modes hm with rfl | rfl | rfl | rfl | rfl <;> exact absurd h (by decide)

/-- **An exception**, to the register file: the mode and its R14. -/
lemma sim_exception_entered {f : RegFile} (h : Sim a f) (hm : validMode a.mode = true) :
    Sim (exception a mmode address diff)
      (f.run [.enter (entered a mmode), .write 14 (linkOf a diff)]) := by
  have h15 : ∀ (t : ArmState σ) v, SameBanks t (t.setReg 15 v) :=
    fun t v => sameBanks_setReg t (Nat.le_refl 15) v
  have h16 : ∀ (t : ArmState σ) v, SameBanks t (t.setReg 16 v) :=
    fun t v => sameBanks_setReg t (by omega) v
  have hspsr : ∀ (t : ArmState σ) s, SameBanks t { t with spsr := s } :=
    fun t _ => ⟨rfl, fun _ _ => rfl, rfl, rfl, rfl, rfl, rfl, rfl, rfl⟩
  simp only [RegFile.run, List.foldl_cons, List.foldl_nil]
  unfold exception entered linkOf
  dsimp only
  cases h32 : armMode32 a.mode with
  | true =>
    simp only [if_true, Bool.true_or, Bool.not_true, Bool.false_and, Bool.false_eq_true, if_false]
    have hsaved := h.congr (hspsr a (Function.update a.spsr mmode.toNat (a.reg 16)))
    have henter := (hsaved.enter hm (0x10 ||| mmode)).write (r := 14) (by omega) (a.reg 15 - diff)
    exact henter.congr ((h16 _ _).trans ((h16 _ _).trans (h15 _ _)))
  | false =>
    simp only [Bool.false_eq_true, if_false, Bool.false_or, Bool.not_false, Bool.true_and]
    split
    · have henter := (h.enter hm (0x10 ||| mmode)).write (r := 14) (by omega)
        ((a.reg 15 - diff) &&& pcBits)
      exact henter.congr ((hspsr _ _).trans ((h16 _ _).trans (h15 _ _)))
    · have henter := (h.enter hm (if supervisor ≤ mmode then supervisor else mmode)).write (r := 14)
        (by omega) (a.reg 15 - diff)
      exact henter.congr ((h15 _ _).trans (h15 _ _))

end Exception

/-! ## The status, there and back -/

lemma bit_shiftLeft20 (x : UInt32) {i : Nat} (hi : i < 32) :
    bit (x <<< 20) i = (decide (20 ≤ i) && bit x (i - 20)) := by
  have h20 : ((20 : UInt32) % 32).toNat = 20 := by decide
  simp only [bit, UInt32.toBitVec_shiftLeft, BitVec.shiftLeft_eq', BitVec.getLsbD_shiftLeft]
  simp [hi]
  grind

lemma psr_back {m mmode r15 saved : UInt32} (hm : m < 4)
    (hM : ∀ j : Fin 32, bit ((0x10 : UInt32) ||| mmode) j = true → j.val < 5)
    (hs : saved = (((((r15 &&& (0xf0000000 : UInt32)) ||| ((0x10 : UInt32) ||| mmode) |||
      ((r15 &&& (0xc000000 : UInt32)) >>> 20)) &&& ~~~(0x1f : UInt32)) ||| m) &&&
        ~~~(0x10 : UInt32))) :
    (((saved &&& (0xffffffe0 : UInt32)) ||| m) &&& (0xf0000000 : UInt32)) |||
        ((((saved &&& (0xffffffe0 : UInt32)) ||| m) &&& (0xc0 : UInt32)) <<< 20) =
          r15 &&& 0xfc000000 ∧
      saved &&& 0x1f = m := by
  have hmm : m = m &&& 3 := (and_of_lt hm).symm
  have hmask : ∀ j : Fin 32, bit 0xf0000000 j = decide (28 ≤ j.val) ∧
      bit 0xc000000 j = decide (26 ≤ j.val ∧ j.val < 28) ∧
      bit 0xfc000000 j = decide (26 ≤ j.val) ∧ bit 0xffffffe0 j = decide (5 ≤ j.val) ∧
      bit 0xc0 j = decide (6 ≤ j.val ∧ j.val < 8) ∧ bit 3 j = decide (j.val < 2) ∧
      bit (~~~(0x1f : UInt32)) j = decide (5 ≤ j.val) ∧ bit 0x1f j = decide (j.val < 5) ∧
      bit (~~~(0x10 : UInt32)) j = decide (j.val ≠ 4) := by decide
  have hbit : ∀ i < 32, bit saved i =
      if 28 ≤ i then bit r15 i else if 6 ≤ i ∧ i < 8 then bit r15 (i + 20) else bit m i := by
    intro i hi
    rw [hs, hmm]
    obtain ⟨h1, -, -, -, -, h6, h7, -, h9⟩ := hmask ⟨i, hi⟩
    have hMi := hM ⟨i, hi⟩
    simp only [bit_or, bit_and, h1, h6, h7, h9,
      bit_shiftRight _ (show (20 : UInt32).toNat < 32 by decide),
      show (20 : UInt32).toNat = 20 from rfl] at hMi ⊢
    by_cases h12 : i + 20 < 32
    · obtain ⟨-, h2, -⟩ := hmask ⟨i + 20, h12⟩
      simp only [h2]
      grind
    · rw [bit_of_le (a := r15) (i := i + 20) (by omega)]
      grind
  have hlow : ∀ i < 32, 2 ≤ i → bit m i = false := by
    intro i hi h2
    rw [hmm, bit_and, (hmask ⟨i, hi⟩).2.2.2.2.2.1, decide_eq_false (Nat.not_lt.mpr h2), Bool.and_false]
  constructor
  · apply ext_bit
    intro i hi
    obtain ⟨h1, -, h3, h4, -⟩ := hmask ⟨i, hi⟩
    obtain ⟨-, -, -, h4', h5', -⟩ := hmask ⟨i - 20, by omega⟩
    simp only [bit_or, bit_and, bit_shiftLeft20 _ hi, h1, h3, h4, h4', h5', hbit i hi,
      hbit (i - 20) (by omega)]
    grind
  · apply ext_bit
    intro i hi
    obtain ⟨-, -, -, -, -, -, -, h8, -⟩ := hmask ⟨i, hi⟩
    simp only [bit_and, hbit i hi, h8]
    grind

lemma pc_back {diff n : UInt32} (hn : n + diff = 4) (hd : diff &&& 3 = 0) (r15 low : UInt32) :
    ((low &&& ~~~(0xfffffffc : UInt32)) |||
        ((((r15 - diff) &&& pcBits) - n + 4) &&& (0xfffffffc : UInt32))) &&& pcBits = r15 &&& pcBits := by
  have hback : put 0xfffffffc low (((r15 - diff) &&& pcBits) - n + 4) &&& pcBits =
      (((r15 - diff) &&& pcBits) - n + 4) &&& pcBits := put_and_inside (by decide) _ _
  have hdiff : ((r15 - diff) &&& pcBits) - n + 4 = ((r15 - diff) &&& pcBits) + diff := by
    rw [← hn]
    grind
  have hd' : diff.toNat % 4 = 0 := by
    have h := congrArg UInt32.toNat hd
    rw [toNat_and_field 0 2 (by decide)] at h
    simpa using h
  refine hback.trans ?_
  rw [hdiff]
  apply UInt32.toNat_inj.mp
  have hlt := diff.toNat_lt
  have hlt' := r15.toNat_lt
  rw [toNat_pcBits, toNat_pcBits, UInt32.toNat_add, toNat_pcBits, UInt32.toNat_sub]
  omega

/-! ## The registers of the banks -/

section Banked

variable {a : ArmState σ} {b : Bank} {r : Nat}

lemma banked_live (a : ArmState σ) (r : Nat) : banked a (home (bankOf a.mode) r) r = a.reg r :=
  if_pos rfl

lemma banked_setReg (hb : home (bankOf a.mode) r ≠ b) (c : Nat) (v : UInt32) :
    banked (a.setReg c v) b r = banked a b r := by
  have hmode : (a.setReg c v).mode = a.mode := rfl
  rw [banked, banked, hmode, if_neg hb, if_neg hb]
  cases b with
  | usr =>
    have h8 : ¬ r < 8 := fun h8 => hb (by simp [home, h8])
    simp only [stored, h8, if_false]
    rfl
  | _ => rfl

lemma putAll_setReg (a : ArmState σ) (ws : List (Nat × UInt32)) :
    (putAll ArmState.setReg a ws).mode = a.mode ∧ (putAll ArmState.setReg a ws).spsr = a.spsr ∧
      (putAll ArmState.setReg a ws).usrregs = a.usrregs ∧
      (Follows a → Follows (putAll ArmState.setReg a ws)) := by
  induction ws generalizing a with
  | nil => exact ⟨rfl, rfl, rfl, id⟩
  | cons w ws ih =>
    obtain ⟨hmode, hspsr, husr, hf⟩ := ih (a.setReg w.1 w.2)
    exact ⟨hmode, hspsr, husr, fun h => hf (follows_setReg h w.1 w.2)⟩

lemma banked_putAll (hb : home (bankOf a.mode) r ≠ b) (ws : List (Nat × UInt32)) :
    banked (putAll ArmState.setReg a ws) b r = banked a b r := by
  induction ws generalizing a with
  | nil => rfl
  | cons w ws ih =>
    have hmode : (a.setReg w.1 w.2).mode = a.mode := rfl
    exact (ih (by rw [hmode]; exact hb)).trans (banked_setReg hb w.1 w.2)

variable (hu : ∀ r < 15, a.usrregs r = userPtr a.mode r) (hm : validMode a.mode = true) (hr : r < 15)
  (hb : home b r = b)
include hu hm hr hb

lemma banked_exception {mmode : UInt32} (address diff : UInt32)
    (hne : b ≠ bankOf (entered a mmode)) :
    banked (exception a mmode address diff) b r = banked a b r := by
  have hsim := sim_exception_entered a mmode address diff (sim_fileOf hu) hm
  rw [← hsim.regs b r hr hb]
  show (((fileOf a).act (.enter (entered a mmode))).act (.write 14 (linkOf a diff))).regs b r = _
  rw [RegFile.act, RegFile.set_regs, if_neg]
  · rfl
  · rintro ⟨hbank, rfl⟩
    exact hne hbank

lemma banked_writeR15 (dest : UInt32) : banked (armWriteR15 a dest) b r = banked a b r :=
  ((sim_writeR15 (sim_fileOf hu) hm dest).regs b r hr hb).symm

end Banked

/-! ## The return -/

section Return

variable {h : ArmState σ} (hf : Follows h) (hpriv : armModePriv h.mode = true)
include hf hpriv

lemma armWriteR15_32 (h32 : armMode32 h.mode = true) {m : UInt32}
    (hs : h.spsr (h.mode &&& 0xf).toNat &&& 0x1f = m) (hne : m ≠ h.mode) (dest : UInt32) :
    armWriteR15 h dest = updatemode ((h.setReg 15 ((h.reg 15 &&& ~~~(0xfffffffc : UInt32)) |||
      ((dest + 4) &&& 0xfffffffc))).setReg 16 (h.spsr (h.mode &&& 0xf).toNat)) m := by
  have hmask : writeR15Mask h.mode = 0xfffffffc := by rw [writeR15Mask, if_pos h32]
  have hcpsr : h.cpsr = 16 := by rw [hf.cpsr, if_pos h32]
  have hmmask : h.mmask = 0x1f := by rw [hf.mmask, if_pos h32]
  unfold armWriteR15
  dsimp only
  rw [hmask]
  set t := h.setReg 15 ((h.reg 15 &&& ~~~(0xfffffffc : UInt32)) |||
    ((dest + 4) &&& (0xfffffffc : UInt32))) with ht
  have hmode : t.mode = h.mode := rfl
  have hrestored : restoreSpsr t = t.setReg 16 (h.spsr (h.mode &&& 0xf).toNat) := by
    rw [restoreSpsr, hmode, if_pos h32]
    rfl
  rw [hmode, if_pos hpriv, hrestored, followPsr]
  have hpsr : (t.setReg 16 (h.spsr (h.mode &&& 0xf).toNat)).psr &&&
      (t.setReg 16 (h.spsr (h.mode &&& 0xf).toNat)).mmask = m := by
    have hreg : (t.setReg 16 (h.spsr (h.mode &&& 0xf).toNat)).psr =
        h.spsr (h.mode &&& 0xf).toNat := by
      show (t.setReg 16 (h.spsr (h.mode &&& 0xf).toNat)).reg h.cpsr = _
      rw [hcpsr, setReg_self]
    rw [hreg, ← hs, ← hmmask]
    rfl
  rw [hpsr]
  exact if_pos hne

lemma armWriteR15_26 (h26 : armMode32 h.mode = false) {dest m : UInt32} (hd : (dest + 4) &&& 3 = m)
    (hne : m ≠ h.mode) : armWriteR15 h dest = updatemode (h.setReg 15 (dest + 4)) m := by
  have hmask : writeR15Mask h.mode = 0xffffffff := by
    rw [writeR15Mask, h26, hpriv]
    rfl
  have hcpsr : h.cpsr = 15 := by
    rw [hf.cpsr, h26]
    rfl
  have hmmask : h.mmask = 3 := by
    rw [hf.mmask, h26]
    rfl
  have hall : (h.reg 15 &&& ~~~(0xffffffff : UInt32)) ||| ((dest + 4) &&& 0xffffffff) = dest + 4 := by
    have hnone : ~~~(0xffffffff : UInt32) = 0 := by decide
    have hones : (0xffffffff : UInt32) = -1 := by decide
    rw [hnone, UInt32.and_zero, UInt32.zero_or, hones, UInt32.and_neg_one]
  unfold armWriteR15
  dsimp only
  rw [hmask, hall]
  set t := h.setReg 15 (dest + 4) with ht
  have hmode : t.mode = h.mode := rfl
  have hrestored : restoreSpsr t = t := by
    rw [restoreSpsr, hmode, h26]
    rfl
  rw [hmode, if_pos hpriv, hrestored, followPsr]
  have hpsr : t.psr &&& t.mmask = m := by
    have hreg : t.psr = dest + 4 := by
      show t.reg h.cpsr = _
      rw [hcpsr, ht, setReg_self]
    rw [hreg, ← hd, ← hmmask]
    rfl
  rw [hpsr]
  exact if_pos hne

end Return

/-! ## The interrupted mode -/

/-- What a handler puts back before it returns: R14, and the registers its mode shares with others. -/
structure PutsBack (e h : ArmState σ) : Prop where
  link : h.reg 14 = e.reg 14
  shared : ∀ r < 15, home (bankOf e.mode) r ≠ bankOf e.mode → h.reg r = e.reg r

/-- `t` goes on where `a` was; only the registers of bank `own` can differ. -/
structure Resumed (own : Bank) (a t : ArmState σ) : Prop where
  mode : t.mode = a.mode
  follows : Follows t
  reg : ∀ r < 15, t.reg r = a.reg r
  others : ∀ b r, r < 15 → home b r = b → b ≠ own → banked t b r = banked a b r
  status : armMode32 a.mode = true → t.reg 16 = a.reg 16
  pc : t.reg 15 &&& a.r15Mask = a.reg 15 &&& a.r15Mask
  r15 : armMode32 a.mode = false → t.reg 15 = a.reg 15

lemma home_ne {own b : Bank} (husr : own ≠ .usr) (hne : own ≠ b) (r : Nat) : home b r ≠ own := by
  unfold home
  split
  · exact husr.symm
  · split
    · split
      · rename_i hfiq
        exact fun h => hne (h.symm.trans hfiq.symm)
      · exact husr.symm
    · exact hne.symm

section Interrupted

variable {a : ArmState σ} (ha : ModeAgrees a) {mmode : UInt32} (hx : isExceptionMode mmode = true)
  {diff : UInt32} (hd : diff &&& 3 = 0)

include hx in
lemma entered_facts (a : ArmState σ) : validMode (entered a mmode) = true ∧
    armModePriv (entered a mmode) = true ∧ bankOf (entered a mmode) ≠ .usr ∧
      (armMode32 (entered a mmode) = true → (entered a mmode &&& 0xf).toNat = mmode.toNat) := by
  unfold entered
  split <;> rcases exception_modes hx with rfl | rfl | rfl | rfl | rfl <;> decide

include hx in
lemma entered_prog32 {a : ArmState σ} (h32 : armMode32 (entered a mmode) = true)
    (h26 : armMode32 a.mode = false) : a.prog32 = true := by
  by_contra hp
  rw [Bool.not_eq_true] at hp
  rw [entered, h26, hp, if_neg (by decide)] at h32
  rcases exception_modes hx with rfl | rfl | rfl | rfl | rfl <;> exact absurd h32 (by decide)

include hx in
lemma entered_26 {a : ArmState σ} (h26 : armMode32 (entered a mmode) = false) :
    armMode32 a.mode = false ∧ a.prog32 = false := by
  rw [← Bool.or_eq_false_iff]
  by_contra hor
  rw [Bool.not_eq_false] at hor
  rw [entered, if_pos hor] at h26
  rcases exception_modes hx with rfl | rfl | rfl | rfl | rfl <;> exact absurd h26 (by decide)

include ha in
lemma mode_low (h26 : armMode32 a.mode = false) : a.mode = a.reg 15 &&& 3 ∧ a.mode < 4 := by
  have hst := ha.status
  rw [h26] at hst
  exact ⟨hst, hst ▸ low_lt _⟩

include ha hd in
lemma diff_low (h26 : armMode32 a.mode = false) : (a.reg 15 - diff) &&& 3 = a.mode := by
  have hfield : ∀ x : UInt32, (x &&& 3).toNat = x.toNat % 4 := by
    intro x
    rw [toNat_and_field 0 2 (by decide)]
    simp
  have hzero : diff.toNat % 4 = 0 := (hfield diff).symm.trans (congrArg UInt32.toNat hd)
  have hlt := diff.toNat_lt
  have hlt' := (a.reg 15).toNat_lt
  rw [(mode_low ha h26).1]
  apply UInt32.toNat_inj.mp
  rw [hfield, hfield, UInt32.toNat_sub]
  omega

include ha hx hd in
lemma savedPsr_26 (h26 : armMode32 a.mode = false) :
    (((savedPsr a mmode diff &&& (0xffffffe0 : UInt32)) ||| a.mode) &&& (0xf0000000 : UInt32)) |||
        ((((savedPsr a mmode diff &&& (0xffffffe0 : UInt32)) ||| a.mode) &&& (0xc0 : UInt32)) <<< 20) =
          a.reg 15 &&& 0xfc000000 ∧
      savedPsr a mmode diff &&& 0x1f = a.mode := by
  refine @psr_back a.mode mmode (a.reg 15) _ (mode_low ha h26).2 ?_ ?_
  · rcases exception_modes hx with rfl | rfl | rfl | rfl | rfl <;> decide
  · have hm32 : armMode32 (0x10 ||| mmode) = true := by
      rcases exception_modes hx with rfl | rfl | rfl | rfl | rfl <;> decide
    simp only [savedPsr, movedR16, h26, hm32, Bool.false_eq_true, if_false, if_true, diff_low ha hd h26]

include ha hx hd in
lemma savedPsr_low : savedPsr a mmode diff &&& 0x1f = a.mode := by
  cases h32 : armMode32 a.mode with
  | true =>
    have hst := ha.status
    rw [h32, if_pos rfl] at hst
    rw [savedPsr, if_pos h32, ← hst]
  | false => exact (savedPsr_26 ha hx hd h32).2

end Interrupted

section Resumed

variable {a : ArmState σ} (ha : ModeAgrees a) (hu : ∀ r < 15, a.usrregs r = userPtr a.mode r)
  (hm : validMode a.mode = true) {mmode : UInt32} (hx : isExceptionMode mmode = true)
  (hother : bankOf (entered a mmode) ≠ bankOf a.mode) (address : UInt32) {diff n : UInt32}
  (hd : diff &&& 3 = 0) (hn : n + diff = 4)

include hu hm hx in
/-- **The banks**: whatever the handler writes, the other modes' registers are there after it. -/
lemma banked_resumed {ws : List (Nat × UInt32)}
    (hback : PutsBack (exception a mmode address diff)
      (putAll ArmState.setReg (exception a mmode address diff) ws)) (dest : UInt32)
    {b : Bank} {r : Nat} (hr : r < 15) (hb : home b r = b) (hne : b ≠ bankOf (entered a mmode)) :
    banked (armWriteR15 (putAll ArmState.setReg (exception a mmode address diff) ws) dest) b r =
      banked a b r := by
  have hsim := sim_exception_entered a mmode address diff (sim_fileOf hu) hm
  have hmode := exception_mode a mmode address diff
  set e := exception a mmode address diff with he
  obtain ⟨hhmode, -, husr, -⟩ := putAll_setReg e ws
  set h := putAll ArmState.setReg e ws with hh
  have hhu : ∀ r < 15, h.usrregs r = userPtr h.mode r := by
    intro r hr
    rw [husr, hhmode]
    exact hsim.usrregs r hr
  have hhm : validMode h.mode = true := by
    rw [hhmode, hmode]
    exact (entered_facts hx a).1
  rw [banked_writeR15 hhu hhm hr hb]
  have hkept : banked h b r = banked e b r := by
    by_cases hlive : home (bankOf e.mode) r = b
    · -- a register that the handler's mode shows: it put it back
      have hshared : home (bankOf e.mode) r ≠ bankOf e.mode := by
        rw [hlive, hmode]
        exact hne
      rw [← hlive, banked_live e r, ← hback.shared r hr hshared, ← hhmode]
      exact banked_live h r
    · exact banked_putAll hlive ws
  exact hkept.trans (banked_exception hu hm hr hb address diff hne)

include hu hm in
lemma exception_link : (exception a mmode address diff).reg 14 = linkOf a diff := by
  have hsim := sim_exception_entered a mmode address diff (sim_fileOf hu) hm
  rw [hsim.reg (by omega)]
  show RegFile.read (((fileOf a).act (.enter (entered a mmode))).act (.write 14 (linkOf a diff))) 14 = _
  rw [RegFile.act, RegFile.read, RegFile.get, RegFile.set_regs, if_pos ⟨rfl, rfl⟩]

include ha hx hother hd hn in
/-- **The return** finds the status in the SPSR, or in R14. -/
lemma status_resumed {h : ArmState σ} (hf : Follows h) (hmode : h.mode = entered a mmode)
    (hspsr : h.spsr = (exception a mmode address diff).spsr) (hlink : h.reg 14 = linkOf a diff) :
    ∃ u, armWriteR15 h (h.reg 14 - n) = updatemode u a.mode ∧
      (armMode32 a.mode = true → (updatemode u a.mode).reg 16 = a.reg 16 ∧
        (updatemode u a.mode).reg 15 &&& 0xfffffffc = a.reg 15 &&& 0xfffffffc) ∧
      (armMode32 a.mode = false → (updatemode u a.mode).reg 15 = a.reg 15) := by
  obtain ⟨-, hpriv, -, hnum⟩ := entered_facts hx a
  have hne : a.mode ≠ h.mode := by
    intro heq
    rw [← hmode, ← heq] at hother
    exact hother rfl
  rw [← hmode] at hpriv hnum
  have hpc : a.reg 15 - diff - n + 4 = a.reg 15 := by
    rw [← hn]
    grind
  cases h32 : armMode32 h.mode with
  | true =>
    have hsaved : h.spsr (h.mode &&& 0xf).toNat = savedPsr a mmode diff := by
      rw [hnum h32, hspsr]
      exact exception_spsr a mmode address diff (hmode ▸ h32) hx
    have hlow : h.spsr (h.mode &&& 0xf).toNat &&& 0x1f = a.mode := by
      rw [hsaved]
      exact savedPsr_low ha hx hd
    refine ⟨_, armWriteR15_32 hf hpriv h32 hlow hne (h.reg 14 - n), fun ha32 => ?_, fun ha26 => ?_⟩
    · have hl : linkOf a diff = a.reg 15 - diff := by simp [linkOf, ha32]
      rw [updatemode_r15, updatemode_r16]
      simp only [movedR15, movedR16, ha32, if_true, ArmState.setReg, Function.update_self, ne_eq,
        Nat.reduceEqDiff, not_false_eq_true, Function.update_of_ne, h32, hsaved]
      refine ⟨by rw [savedPsr, if_pos ha32], ?_⟩
      rw [hlink, hl, hpc]
      exact put_and_inside (by decide) _ _
    · have hl : linkOf a diff = (a.reg 15 - diff) &&& pcBits := by
        simp [linkOf, ha26, entered_prog32 hx (hmode ▸ h32) ha26]
      have hmasks : pcBits ||| (3 : UInt32) ||| (0xfc000000 : UInt32) = -1 := by decide
      rw [updatemode_r15]
      simp only [movedR15, ha26, h32, Bool.false_eq_true, if_false, if_true, ArmState.setReg,
        Function.update_self, ne_eq, Nat.reduceEqDiff, not_false_eq_true, Function.update_of_ne,
        hsaved]
      rw [UInt32.or_assoc _ (_ &&& 0xf0000000), (savedPsr_26 ha hx hd ha26).1, hlink, hl,
        (mode_low ha ha26).1, UInt32.and_assoc _ 3 3, UInt32.and_self]
      refine (congrArg (fun x => x ||| _ ||| _) (pc_back hn hd (a.reg 15) (h.reg 15))).trans ?_
      rw [UInt32.and_comm _ pcBits, UInt32.and_comm _ 3, UInt32.and_comm _ 0xfc000000, ← or_and,
        ← or_and, hmasks, UInt32.neg_one_and]
  | false =>
    have hboth : armMode32 a.mode = false ∧ a.prog32 = false := entered_26 hx (hmode ▸ h32)
    have hl : linkOf a diff = a.reg 15 - diff := by simp [linkOf, hboth.2]
    have hdest : h.reg 14 - n + 4 = a.reg 15 := by rw [hlink, hl, hpc]
    refine ⟨_, armWriteR15_26 hf hpriv h32 (hdest ▸ (mode_low ha hboth.1).1.symm) hne, fun ha32 => ?_,
      fun ha26 => ?_⟩
    · rw [hboth.1] at ha32
      exact absurd ha32 (by decide)
    · rw [updatemode_r15]
      simp only [movedR15, ha26, h32, Bool.false_eq_true, if_false, ArmState.setReg,
        Function.update_self]
      exact hdest

include ha hu hm hx hother hd hn in
/-- **An exception does not show.**  Whatever registers its handler writes, with R14 and the shared ones
put back `SUBS PC, R14, #n` goes on where the exception was taken: in the same mode, with the same
status and PC, and with the registers of every mode but the handler's own. -/
theorem interrupted_resumes (ws : List (Nat × UInt32))
    (hback : PutsBack (exception a mmode address diff)
      (putAll ArmState.setReg (exception a mmode address diff) ws)) :
    let h := putAll ArmState.setReg (exception a mmode address diff) ws
    Resumed (bankOf (entered a mmode)) a (armWriteR15 h (h.reg 14 - n)) := by
  intro h
  obtain ⟨hhmode, hspsr, -, hhf⟩ := putAll_setReg (exception a mmode address diff) ws
  have hothers : ∀ b r, r < 15 → home b r = b → b ≠ bankOf (entered a mmode) →
      banked (armWriteR15 h (h.reg 14 - n)) b r = banked a b r :=
    fun b r hr hb hne => banked_resumed hu hm hx address hback _ hr hb hne
  have hlink : h.reg 14 = linkOf a diff := hback.link.trans (exception_link hu hm address)
  obtain ⟨u, ht, h32, h26⟩ := status_resumed ha hx hother address hd hn
    (hhf (follows_exception a mmode address diff))
    (hhmode.trans (exception_mode a mmode address diff)) hspsr hlink
  have hmask : a.r15Mask = if armMode32 a.mode then 0xfffffffc else 0x3fffffc := ha.follows.r15Mask
  rw [ht] at hothers ⊢
  have hmode : (updatemode u a.mode).mode = a.mode := updatemode_mode u a.mode
  refine ⟨hmode, follows_updatemode u a.mode, ?_, hothers, fun hm32 => (h32 hm32).1, ?_, h26⟩
  · intro r hr
    have hne := home_ne (entered_facts hx a).2.2.1 hother r
    rw [← banked_live, hmode, hothers _ r hr (home_home _ _) hne, banked_live]
  · cases hm32 : armMode32 a.mode with
    | true =>
      rw [hmask, if_pos hm32]
      exact (h32 hm32).2
    | false => rw [h26 hm32]

end Resumed

/-- SVC26, with an interrupt whose handler has a stack of its own and uses R0 and R8. -/
def handlerWrites : List (Nat × UInt32) := [(13, 0x2000), (0, 5), (8, 7), (8, 0), (0, 0)]

theorem interrupted_resumes_svc :
    let a : ArmState Unit := armReset .sa110 true ⟨0, ()⟩
    let h := putAll ArmState.setReg (exception a irq 0x1c 0) handlerWrites
    h.reg 13 ≠ a.reg 13 ∧ Resumed .irq a (armWriteR15 h (h.reg 14 - 4)) := by
  have hback : PutsBack (exception (armReset .sa110 true ⟨0, ()⟩) irq 0x1c 0)
      (putAll ArmState.setReg (exception (armReset .sa110 true ⟨0, ()⟩) irq 0x1c 0) handlerWrites) :=
    ⟨by decide, by decide⟩
  have hagrees := (settled_armReset .sa110 true (⟨0, ()⟩ : World Unit)).toModeAgrees
  exact ⟨by decide, interrupted_resumes hagrees (by decide) (by decide) (by decide) (by decide) 0x1c
    (by decide) (by decide) handlerWrites hback⟩

end RpcEmu.Arm
