import RpcEmu.Arm.Multiple
import RpcEmu.Arm.Modes

/-!
# The register file

What the banks are for: a processor with thirty registers, of which a mode shows fifteen.  `RegFile` is
that processor, indexed by bank and register, and `home` says in which bank a mode's register is.

The core keeps the registers of the current mode in `reg` and the others in arrays, and moves them at
each change of mode.  **`Sim`** is what the two have to do with each other: the file has the live
register where the current mode shows it and the stored one elsewhere, and `usrregs` points at the
registers of User mode.  It is kept by every way there is to change a register or the mode
(`sim_step`), and so along every run.
-/

namespace RpcEmu.Arm

variable {σ : Type}

/-! ## The architecture's register file -/

inductive Bank where
  | usr | fiq | irq | svc | abt | und
  deriving DecidableEq, Repr

def bankOf (m : UInt32) : Bank :=
  match (m &&& 0xf).toNat with
  | 1 => .fiq
  | 2 => .irq
  | 3 => .svc
  | 7 => .abt
  | 11 => .und
  | _ => .usr

/-- The bank that has register `r` of bank `b`: R0–R7 are shared by all, R8–R12 by all but FIQ, and R13
and R14 are each bank's own. -/
def home (b : Bank) (r : Nat) : Bank :=
  if r < 8 then .usr else if r < 13 then if b = .fiq then .fiq else .usr else b

def validMode (m : UInt32) : Bool :=
  [0, 1, 2, 3, 0x10, 0x11, 0x12, 0x13, 0x17, 0x1b, 0x1f].contains m

structure RegFile where
  mode : UInt32
  regs : Bank → Nat → UInt32

namespace RegFile

/-- Register `r`, as bank `b` sees it. -/
def get (f : RegFile) (b : Bank) (r : Nat) : UInt32 := f.regs (home b r) r

/-- Register `r`, as the current mode sees it. -/
def read (f : RegFile) (r : Nat) : UInt32 := f.get (bankOf f.mode) r

def set (f : RegFile) (b : Bank) (r : Nat) (v : UInt32) : RegFile :=
  { f with regs := Function.update f.regs (home b r) (Function.update (f.regs (home b r)) r v) }

end RegFile

inductive Act where
  /-- Write a register of the current mode. -/
  | write (r : Nat) (v : UInt32)
  /-- Write a register of User mode. -/
  | writeUser (r : Nat) (v : UInt32)
  /-- Enter a mode. -/
  | enter (m : UInt32)

def RegFile.act (f : RegFile) : Act → RegFile
  | .write r v => f.set (bankOf f.mode) r v
  | .writeUser r v => f.set .usr r v
  | .enter m => { f with mode := m }

def RegFile.run (f : RegFile) (acts : List Act) : RegFile := acts.foldl RegFile.act f

@[simp] lemma home_home (b : Bank) (r : Nat) : home (home b r) r = home b r := by
  unfold home
  split
  · rfl
  · split
    · by_cases h : b = .fiq <;> simp [h]
    · rfl

@[simp] lemma home_usr (r : Nat) : home .usr r = .usr := by simp [home]

/-! ## The core as a register file -/

def pairGet (p : UInt32 × UInt32) (r : Nat) : UInt32 := if r = 13 then p.1 else p.2

section Core

variable (a : ArmState σ)

def stored : Bank → Nat → UInt32
  | .usr, r => if r < 8 then a.reg r else a.userReg r
  | .fiq, r => a.fiqReg r
  | .irq, r => pairGet a.irqReg r
  | .svc, r => pairGet a.superReg r
  | .abt, r => pairGet a.abortReg r
  | .und, r => pairGet a.undefReg r

def banked (b : Bank) (r : Nat) : UInt32 :=
  if home (bankOf a.mode) r = b then a.reg r else stored a b r

/-- Where register `r` of User mode is. -/
def userPtr (m : UInt32) (r : Nat) : RegPtr :=
  if home (bankOf m) r = .usr then .reg r else .user r

end Core

/-- **The core simulates the register file.** -/
structure Sim (a : ArmState σ) (f : RegFile) : Prop where
  mode : a.mode = f.mode
  regs : ∀ b r, r < 15 → home b r = b → f.regs b r = banked a b r
  usrregs : ∀ r < 15, a.usrregs r = userPtr a.mode r

lemma Sim.reg {a : ArmState σ} {f : RegFile} (h : Sim a f) {r : Nat} (hr : r < 15) :
    a.reg r = f.read r := by
  have hf := h.regs (home (bankOf a.mode) r) r hr (home_home _ _)
  rw [RegFile.read, RegFile.get, ← h.mode, hf, banked, if_pos rfl]

lemma Sim.readPtr {a : ArmState σ} {f : RegFile} (h : Sim a f) {r : Nat} (hr : r < 15) :
    a.readPtr (a.usrregs r) = f.get .usr r := by
  have hf := h.regs .usr r hr (home_usr r)
  rw [RegFile.get, home_usr, hf, h.usrregs r hr, userPtr, banked]
  by_cases hlive : home (bankOf a.mode) r = .usr
  · rw [if_pos hlive, if_pos hlive]
    rfl
  · rw [if_neg hlive, if_neg hlive]
    have h8 : ¬ r < 8 := fun h8 => hlive (by simp [home, h8])
    simp [ArmState.readPtr, stored, h8]

/-! ## Frames -/

/-- The registers in use and every bank are the same. -/
structure SameBanks (a t : ArmState σ) : Prop where
  mode : t.mode = a.mode
  reg : ∀ r < 15, t.reg r = a.reg r
  userReg : t.userReg = a.userReg
  fiqReg : t.fiqReg = a.fiqReg
  irqReg : t.irqReg = a.irqReg
  superReg : t.superReg = a.superReg
  abortReg : t.abortReg = a.abortReg
  undefReg : t.undefReg = a.undefReg
  usrregs : t.usrregs = a.usrregs

lemma SameBanks.refl (a : ArmState σ) : SameBanks a a :=
  ⟨rfl, fun _ _ => rfl, rfl, rfl, rfl, rfl, rfl, rfl, rfl⟩

lemma SameBanks.trans {a t u : ArmState σ} (h : SameBanks a t) (h' : SameBanks t u) :
    SameBanks a u where
  mode := h'.mode.trans h.mode
  reg r hr := (h'.reg r hr).trans (h.reg r hr)
  userReg := h'.userReg.trans h.userReg
  fiqReg := h'.fiqReg.trans h.fiqReg
  irqReg := h'.irqReg.trans h.irqReg
  superReg := h'.superReg.trans h.superReg
  abortReg := h'.abortReg.trans h.abortReg
  undefReg := h'.undefReg.trans h.undefReg
  usrregs := h'.usrregs.trans h.usrregs

lemma sameBanks_setReg (a : ArmState σ) {r : Nat} (hr : 15 ≤ r) (v : UInt32) :
    SameBanks a (a.setReg r v) := by
  refine ⟨rfl, ?_, rfl, rfl, rfl, rfl, rfl, rfl, rfl⟩
  intro c hc
  exact Function.update_of_ne (by omega) _ _

lemma stored_congr {a t : ArmState σ} (h : SameBanks a t) {r : Nat} (hr : r < 15) (b : Bank) :
    stored t b r = stored a b r := by
  cases b with
  | usr => simp only [stored, h.reg r hr, h.userReg]
  | fiq => simp only [stored, h.fiqReg]
  | irq => simp only [stored, h.irqReg]
  | svc => simp only [stored, h.superReg]
  | abt => simp only [stored, h.abortReg]
  | und => simp only [stored, h.undefReg]

lemma Sim.congr {a t : ArmState σ} {f : RegFile} (h : Sim a f) (hs : SameBanks a t) : Sim t f where
  mode := hs.mode.trans h.mode
  regs b r hr hb := by rw [h.regs b r hr hb, banked, banked, hs.mode, hs.reg r hr, stored_congr hs hr]
  usrregs r hr := by rw [hs.usrregs, hs.mode, h.usrregs r hr]

/-! ## Writes -/

lemma RegFile.set_regs (f : RegFile) (b : Bank) (r : Nat) (v : UInt32) (b' : Bank) (r' : Nat) :
    (f.set b r v).regs b' r' = if b' = home b r ∧ r' = r then v else f.regs b' r' := by
  rw [RegFile.set]
  by_cases hb : b' = home b r
  · subst hb
    by_cases hr : r' = r <;> simp [hr]
  · simp [hb]

lemma Sim.write {a : ArmState σ} {f : RegFile} (h : Sim a f) {r : Nat} (hr : r < 15) (v : UInt32) :
    Sim (a.setReg r v) (f.act (.write r v)) where
  mode := h.mode
  regs b r' hr' hb := by
    rw [RegFile.act, RegFile.set_regs, ← h.mode]
    by_cases hrr : r' = r
    · subst hrr
      by_cases hlive : home (bankOf a.mode) r' = b
      · simp [banked, hlive, ArmState.setReg]
      · have hbanked : banked (a.setReg r' v) b r' = banked a b r' := by
          simp only [banked, ArmState.setReg, hlive, if_false]
          cases b with
          | usr =>
            have h8 : ¬ r' < 8 := fun h8 => hlive (by simp [home, h8])
            simp [stored, h8]
          | _ => rfl
        rw [hbanked, if_neg (fun hc => hlive hc.1.symm)]
        exact h.regs b r' hr' hb
    · have hreg : (a.setReg r v).reg r' = a.reg r' := Function.update_of_ne hrr _ _
      have hbanked : banked (a.setReg r v) b r' = banked a b r' := by
        have hstored : stored (a.setReg r v) b r' = stored a b r' := by
          cases b with
          | usr => simp only [stored, hreg]; rfl
          | _ => rfl
        simp only [banked, hreg, hstored]
        rfl
      rw [hbanked, if_neg (fun hc => hrr hc.2)]
      exact h.regs b r' hr' hb
  usrregs := h.usrregs

lemma Sim.writeUser {a : ArmState σ} {f : RegFile} (h : Sim a f) {r : Nat} (hr : r < 15)
    (v : UInt32) : Sim (putUser a r v) (f.act (.writeUser r v)) := by
  rw [putUser, h.usrregs r hr, userPtr]
  by_cases hlive : home (bankOf a.mode) r = .usr
  · rw [if_pos hlive]
    have hw := h.write hr v
    have hact : f.act (.write r v) = f.act (.writeUser r v) := by
      simp only [RegFile.act, RegFile.set, ← h.mode, hlive, home_usr]
    exact hact ▸ hw
  · rw [if_neg hlive]
    have h8 : ¬ r < 8 := fun h8 => hlive (by simp [home, h8])
    refine ⟨h.mode, ?_, h.usrregs⟩
    intro b r' hr' hb
    rw [RegFile.act, RegFile.set_regs, home_usr, h.regs b r' hr' hb]
    have hother : b ≠ .usr → banked (a.writePtr v (.user r)) b r' = banked a b r' := by
      intro hne
      cases b <;> first | exact absurd rfl hne | rfl
    by_cases hb' : b = .usr
    · subst hb'
      by_cases hrr : r' = r
      · subst hrr
        simp [banked, ArmState.writePtr, hlive, stored, h8]
      · simp [banked, ArmState.writePtr, hrr, stored]
    · rw [hother hb', if_neg (fun hc => hb' hc.1)]

/-! ## Changes of mode -/

lemma validMode_bits {m : UInt32} (h : validMode m = true) :
    (m &&& 0xf).toNat ∈ [0, 1, 2, 3, 7, 11, 15] := by
  simp only [validMode, List.contains_eq_mem, decide_eq_true_eq, List.mem_cons, List.not_mem_nil,
    or_false] at h
  rcases h with rfl | rfl | rfl | rfl | rfl | rfl | rfl | rfl | rfl | rfl | rfl <;> decide

/-- **What is stored back** is every register of the file. -/
lemma stored_storeBack_bits {a : ArmState σ} (hbits : (a.mode &&& 0xf).toNat ∈ [0, 1, 2, 3, 7, 11, 15])
    {b : Bank} {r : Nat} (hr : r < 15) (hb : home b r = b) : stored (storeBack a) b r = banked a b r := by
  simp only [List.mem_cons, List.not_mem_nil, or_false] at hbits
  rcases hbits with h | h | h | h | h | h | h <;>
    simp only [banked, storeBack, bankOf, h] <;> cases b <;>
    grind [stored, copyRegs, linkPair, pairGet, home]

lemma stored_storeBack {a : ArmState σ} (hm : validMode a.mode = true) {b : Bank} {r : Nat}
    (hr : r < 15) (hb : home b r = b) : stored (storeBack a) b r = banked a b r :=
  stored_storeBack_bits (validMode_bits hm) hr hb

def loadOf (a : ArmState σ) : Bank → ArmState σ
  | .usr => { a with reg := copyRegs 8 15 a.userReg a.reg, usrregs := copyRegs 0 15 .reg a.usrregs }
  | .fiq =>
    { a with
      reg := copyRegs 8 15 a.fiqReg a.reg
      usrregs := copyRegs 8 15 .user (copyRegs 0 8 .reg a.usrregs) }
  | .irq => loadLink a a.irqReg
  | .svc => loadLink a a.superReg
  | .abt => loadLink a a.abortReg
  | .und => loadLink a a.undefReg

lemma loadBank_eq (a : ArmState σ) (m : UInt32) : loadBank a m = loadOf a (bankOf m) := by
  unfold loadBank bankOf
  generalize (m &&& 0xf).toNat = n
  split <;> simp_all [loadOf]

lemma loadLink_reg (a : ArmState σ) (p : UInt32 × UInt32) {r : Nat} (hr : r < 15) :
    (loadLink a p).reg r =
      if r < 8 then a.reg r else if r < 13 then a.userReg r else pairGet p r := by
  simp only [loadLink, Function.update_apply, copyRegs, pairGet]
  grind

lemma loadBank_reg (a : ArmState σ) (m : UInt32) {r : Nat} (hr : r < 15) :
    (loadBank a m).reg r = stored a (home (bankOf m) r) r := by
  rw [loadBank_eq]
  cases bankOf m with
  | usr | fiq =>
    simp only [loadOf, copyRegs]
    grind [stored, home]
  | irq | svc | abt | und =>
    simp only [loadOf, loadLink_reg a _ hr]
    grind [stored, home]

lemma stored_loadBank (a : ArmState σ) (m : UInt32) (b : Bank) {r : Nat} (hr : r < 15) :
    stored (loadBank a m) b r = stored a b r := by
  have hlow : r < 8 → (loadBank a m).reg r = a.reg r := by
    intro h8
    rw [loadBank_reg a m hr]
    simp [home, stored, h8]
  rw [loadBank_eq] at hlow ⊢
  cases b with
  | usr =>
    have huser : (loadOf a (bankOf m)).userReg = a.userReg := by cases bankOf m <;> rfl
    simp only [stored, huser]
    split
    · rename_i h8
      exact hlow h8
    · rfl
  | _ => cases bankOf m <;> rfl

lemma loadBank_usrregs (a : ArmState σ) (m : UInt32) {r : Nat} (hr : r < 15) :
    (loadBank a m).usrregs r = userPtr m r := by
  rw [loadBank_eq, userPtr]
  cases bankOf m <;> simp only [loadOf, loadLink, copyRegs] <;> grind [home]

lemma sameBanks_placePsr (a : ArmState σ) (om : UInt32) : SameBanks a (placePsr a om) := by
  have h15 : (15 : Nat) ≤ 15 := Nat.le_refl 15
  have h16 : (15 : Nat) ≤ 16 := by omega
  have hbits : ∀ (t : ArmState σ) (x y : UInt32) (c : Nat),
      SameBanks t { t with mmask := x, cpsr := c, r15Mask := y } :=
    fun t _ _ _ => ⟨rfl, fun _ _ => rfl, rfl, rfl, rfl, rfl, rfl, rfl, rfl⟩
  unfold placePsr
  split
  · dsimp only
    split
    · exact hbits a _ _ _
    · exact (hbits a _ _ _).trans ((sameBanks_setReg _ h16 _).trans
        ((sameBanks_setReg _ h16 _).trans (sameBanks_setReg _ h15 _)))
  · dsimp only
    split
    · exact (hbits a _ _ _).trans ((sameBanks_setReg _ h16 _).trans
        ((sameBanks_setReg _ h15 _).trans ((sameBanks_setReg _ h15 _).trans
          ((sameBanks_setReg _ h15 _).trans (sameBanks_setReg _ h15 _)))))
    · exact (hbits a _ _ _).trans (sameBanks_setReg _ h16 _)

/-- **A change of mode** leaves the register file as it is. -/
lemma Sim.enter {a : ArmState σ} {f : RegFile} (h : Sim a f) (hm : validMode a.mode = true)
    (m : UInt32) : Sim (updatemode a m) (f.act (.enter m)) := by
  set a₁ : ArmState σ := { a with usrregs := Function.update a.usrregs 15 (.reg 15) } with ha₁
  set t : ArmState σ := loadBank { storeBack a₁ with mode := m } m with ht
  have hbanked : ∀ b r, banked a₁ b r = banked a b r := by
    intro b r
    cases b <;> rfl
  have hstored : ∀ b r, r < 15 → home b r = b → stored t b r = f.regs b r := by
    intro b r hr hb
    have hm₁ : validMode a₁.mode = true := hm
    have hback := stored_storeBack hm₁ hr hb
    have hset : stored { storeBack a₁ with mode := m } b r = stored (storeBack a₁) b r := by
      cases b <;> rfl
    rw [ht, stored_loadBank _ _ _ hr, hset, hback, hbanked, h.regs b r hr hb]
  have hsim : Sim t (f.act (.enter m)) := by
    have hmode : t.mode = m := loadBank_mode _ _
    refine ⟨hmode, ?_, ?_⟩
    · intro b r hr hb
      show f.regs b r = banked t b r
      rw [banked, hmode]
      split
      · rename_i hlive
        have hreg : t.reg r = stored t (home (bankOf m) r) r := by
          rw [ht, loadBank_reg _ _ hr, stored_loadBank _ _ _ hr]
        rw [hreg, hlive, hstored b r hr hb]
      · exact (hstored b r hr hb).symm
    · intro r hr
      rw [hmode]
      exact loadBank_usrregs _ _ hr
  have hplace := hsim.congr (sameBanks_placePsr t a.mode)
  exact hplace.congr ⟨rfl, fun _ _ => rfl, rfl, rfl, rfl, rfl, rfl, rfl, rfl⟩

/-! ## Runs -/

inductive Change where
  | write (r : Nat) (v : UInt32)
  | exception (mmode address diff : UInt32)
  | writeCpsr (op value : UInt32)
  | compareRd15 (dest : UInt32)
  | writeR15 (dest : UInt32)
  | loadUser (op address writeback : UInt32)
  | storeUser (op address writeback : UInt32)

section Runs

variable (bus : Bus σ)

def Change.apply (a : ArmState σ) : Change → ArmState σ
  | write r v => a.setReg r v
  | exception mmode address diff => Arm.exception a mmode address diff
  | writeCpsr op value => armWriteCpsr a op value
  | compareRd15 dest => armCompareRd15 a dest
  | writeR15 dest => armWriteR15 a dest
  | loadUser op address writeback => armLoadMultipleS bus op a address writeback
  | storeUser op address writeback => armStoreMultipleS bus op a address writeback

def baseAct (op v : UInt32) : List Act := if rn op = 15 then [] else [.write (rn op) v]

/-- The base that `data_abort` of a load leaves. -/
def abortedBase (op : UInt32) (a : ArmState σ) (writeback : UInt32) : UInt32 :=
  if !a.abortBaseRestored && writesBack op then writeback else a.reg (rn op)

/-- LDM with `^` aborts: below R15, or at R15 itself. -/
def loadUserAborts (op : UInt32) (a : ArmState σ) (address : UInt32) : Bool :=
  let e := (fetched bus op a address).2
  e.aborted || (listsR15 op && (bus.read32 a.memmode e.addr e.world).2.aborted)

/-- What LDM with `^` does to the register file: the writeback, the loads (into the User bank, unless
R15 is among them), and then the new mode or, after an abort, the base. -/
def loadUserActs (op : UInt32) (a : ArmState σ) (address writeback : UInt32) : List Act :=
  (if writesBack op then baseAct op writeback else []) ++
    ((fetched bus op a address).1.map fun p =>
      if listsR15 op then Act.write p.1 p.2 else Act.writeUser p.1 p.2) ++
    (if loadUserAborts bus op a address then baseAct op (abortedBase op a writeback)
      else [.enter (armLoadMultipleS bus op a address writeback).mode])

/-- What a change is to the register file.  The mode that a change of the status enters is the one the
core is in afterwards. -/
def Change.acts (a : ArmState σ) : Change → List Act
  | write r v => [.write r v]
  | exception mmode _ diff =>
    let link := a.reg 15 - diff
    [.enter (0x10 ||| mmode), .write 14 (if armMode32 a.mode then link else link &&& 0x3fffffc)]
  | writeCpsr op value => [.enter (armWriteCpsr a op value).mode]
  | compareRd15 dest => [.enter (armCompareRd15 a dest).mode]
  | writeR15 dest => [.enter (armWriteR15 a dest).mode]
  | loadUser op address writeback => loadUserActs bus op a address writeback
  | storeUser op address writeback =>
    baseAct op ((armStoreMultipleS bus op a address writeback).reg (rn op))

end Runs

/-! ## One change -/

@[simp] lemma RegFile.run_append (f : RegFile) (acts more : List Act) :
    f.run (acts ++ more) = (f.run acts).run more := List.foldl_append

lemma Sim.enter_self {a : ArmState σ} {f : RegFile} (h : Sim a f) : f.act (.enter a.mode) = f := by
  rw [RegFile.act, h.mode]

lemma Sim.mayEnter {a t : ArmState σ} {f : RegFile} (h : Sim a f) (hm : validMode a.mode = true)
    (hs : SameBanks a t) (p : Prop) [Decidable p] (m : UInt32) :
    Sim (if p then updatemode t m else t) (f.act (.enter (if p then updatemode t m else t).mode)) := by
  have ht := h.congr hs
  split
  · rw [updatemode_mode]
    exact ht.enter (hs.mode ▸ hm) m
  · rw [ht.enter_self]
    exact ht

lemma sameBanks_restoreSpsr (a : ArmState σ) : SameBanks a (restoreSpsr a) := by
  unfold restoreSpsr
  split
  · exact sameBanks_setReg a (by omega) _
  · exact SameBanks.refl a

lemma sameBanks_copyCpsr (a : ArmState σ) (op value : UInt32) :
    SameBanks a (copyCpsr a op value) := by
  unfold copyCpsr
  split <;> split
  · exact (sameBanks_setReg a (by omega) _).trans (sameBanks_setReg _ (by omega) _)
  · exact sameBanks_setReg a (by omega) _
  · exact sameBanks_setReg a (by omega) _
  · exact SameBanks.refl a

lemma sameBanks_cpsrWritten (a : ArmState σ) (op value : UInt32) :
    SameBanks a (cpsrWritten a op value) := by
  have h16 : ∀ v, SameBanks a (a.setReg 16 v) := fun v => sameBanks_setReg a (by omega) v
  unfold cpsrWritten
  dsimp only
  split
  · exact h16 _
  · exact (h16 _).trans (sameBanks_copyCpsr _ _ _)

section Step

variable {a : ArmState σ} {f : RegFile} (h : Sim a f) (hm : validMode a.mode = true)
include h hm

lemma sim_writeR15 (dest : UInt32) :
    Sim (armWriteR15 a dest) (f.act (.enter (armWriteR15 a dest).mode)) := by
  have h15 : ∀ v, SameBanks a (a.setReg 15 v) := fun v => sameBanks_setReg a (Nat.le_refl 15) v
  unfold armWriteR15
  dsimp only
  split
  · exact h.mayEnter hm ((h15 _).trans (sameBanks_restoreSpsr _)) _ _
  · rw [(h.congr (h15 _)).enter_self]
    exact h.congr (h15 _)

lemma sim_compareRd15 (dest : UInt32) :
    Sim (armCompareRd15 a dest) (f.act (.enter (armCompareRd15 a dest).mode)) := by
  unfold armCompareRd15
  split
  · split
    · exact h.mayEnter hm (sameBanks_restoreSpsr a) _ _
    · exact h.mayEnter hm (SameBanks.refl a) _ _
  · exact h.mayEnter hm (sameBanks_setReg a (Nat.le_refl 15) _) _ _

lemma sim_writeCpsr (op value : UInt32) :
    Sim (armWriteCpsr a op value) (f.act (.enter (armWriteCpsr a op value).mode)) :=
  h.mayEnter hm (sameBanks_cpsrWritten a _ value) _ _

lemma sim_exception (hp : a.prog32 = true) (mmode address diff : UInt32) :
    Sim (exception a mmode address diff)
      (f.run [.enter (0x10 ||| mmode), .write 14 (if armMode32 a.mode then a.reg 15 - diff
        else (a.reg 15 - diff) &&& 0x3fffffc)]) := by
  have hspsr : ∀ (t : ArmState σ) s, SameBanks t { t with spsr := s } :=
    fun t _ => ⟨rfl, fun _ _ => rfl, rfl, rfl, rfl, rfl, rfl, rfl, rfl⟩
  have h15 : ∀ (t : ArmState σ) v, SameBanks t (t.setReg 15 v) :=
    fun t v => sameBanks_setReg t (Nat.le_refl 15) v
  have h16 : ∀ (t : ArmState σ) v, SameBanks t (t.setReg 16 v) :=
    fun t v => sameBanks_setReg t (by omega) v
  simp only [RegFile.run, List.foldl_cons, List.foldl_nil]
  unfold exception
  dsimp only
  split
  · -- the frames around the two acts are the SPSR before, the status and R15 after
    have hsaved := h.congr (hspsr a (Function.update a.spsr mmode.toNat (a.reg 16)))
    have henter := (hsaved.enter hm (0x10 ||| mmode)).write (r := 14) (by omega) (a.reg 15 - diff)
    exact henter.congr ((h16 _ _).trans ((h16 _ _).trans (h15 _ _)))
  · have henter := (h.enter hm (0x10 ||| mmode)).write (r := 14) (by omega)
      ((a.reg 15 - diff) &&& 0x3fffffc)
    exact henter.congr ((hspsr _ _).trans ((h16 _ _).trans (h15 _ _)))

end Step

/-! ## User-bank transfers -/

lemma sameBanks_withWorld (a : ArmState σ) (w : World σ) : SameBanks a (a.withWorld w) :=
  ⟨rfl, fun _ _ => rfl, rfl, rfl, rfl, rfl, rfl, rfl, rfl⟩

/-- What a change of mode leaves as it is. -/
structure Beside (a t : ArmState σ) : Prop where
  abortBaseRestored : t.abortBaseRestored = a.abortBaseRestored
  prog32 : t.prog32 = a.prog32
  mode : t.mode = a.mode
  r15 : t.reg 15 = a.reg 15

lemma Beside.refl (a : ArmState σ) : Beside a a := ⟨rfl, rfl, rfl, rfl⟩

lemma Beside.trans {a t u : ArmState σ} (h : Beside a t) (h' : Beside t u) : Beside a u :=
  ⟨h'.abortBaseRestored.trans h.abortBaseRestored, h'.prog32.trans h.prog32, h'.mode.trans h.mode,
    h'.r15.trans h.r15⟩

lemma Beside.setReg (a : ArmState σ) {r : Nat} (hr : r < 15) (v : UInt32) : Beside a (a.setReg r v) :=
  ⟨rfl, rfl, rfl, Function.update_of_ne (by omega) _ _⟩

lemma Sim.base {a : ArmState σ} {f : RegFile} (h : Sim a f) (op v : UInt32)
    (hv : rn op = 15 → v = a.reg 15) :
    Sim (a.setReg (rn op) v) (f.run (baseAct op v)) ∧ Beside a (a.setReg (rn op) v) := by
  unfold baseAct
  split
  · rename_i h15
    have hself : a.setReg (rn op) v = a := by
      rw [hv h15, h15, ArmState.setReg, Function.update_eq_self]
    rw [hself]
    exact ⟨h, Beside.refl a⟩
  · have hlt : rn op < 15 := by
      have := rn_lt op
      omega
    exact ⟨h.write hlt v, Beside.setReg a hlt v⟩

lemma Sim.withBase {a : ArmState σ} {f : RegFile} (h : Sim a f) (op v : UInt32) :
    Sim (withBase op a v) (f.run (if writesBack op then baseAct op v else [])) ∧
      Beside a (Arm.withBase op a v) := by
  unfold Arm.withBase
  split
  · rename_i hw
    refine h.base op v fun h15 => ?_
    simp [writesBack, h15] at hw
  · exact ⟨h, Beside.refl a⟩

lemma Sim.loadAborted {a t : ArmState σ} {f : RegFile} (h : Sim t f) (hbe : Beside a t)
    (op writeback : UInt32) :
    Sim (loadAborted op t (a.reg (rn op)) writeback)
        (f.run (baseAct op (abortedBase op a writeback))) ∧
      Beside t (Arm.loadAborted op t (a.reg (rn op)) writeback) := by
  unfold Arm.loadAborted abortedBase
  rw [hbe.abortBaseRestored]
  split
  · rename_i hw
    refine h.base op writeback fun hn => ?_
    simp [writesBack, hn] at hw
  · refine h.base op _ fun hn => ?_
    rw [hn, hbe.r15]

lemma Sim.putAll {put : ArmState σ → Nat → UInt32 → ArmState σ} {act : Nat → UInt32 → Act}
    (hput : ∀ {a : ArmState σ} {f : RegFile}, Sim a f → ∀ {r : Nat}, r < 15 → ∀ v,
      Sim (put a r v) (f.act (act r v)) ∧ Beside a (put a r v))
    {ws : List (Nat × UInt32)} (hws : ∀ p ∈ ws, p.1 < 15) {a : ArmState σ} {f : RegFile}
    (h : Sim a f) :
    Sim (putAll put a ws) (f.run (ws.map fun p => act p.1 p.2)) ∧ Beside a (Arm.putAll put a ws) := by
  induction ws generalizing a f with
  | nil => exact ⟨h, Beside.refl a⟩
  | cons p ws ih =>
    obtain ⟨hp, hbe⟩ := hput h (hws p List.mem_cons_self) p.2
    obtain ⟨hps, hbes⟩ := ih (fun q hq => hws q (List.mem_cons_of_mem _ hq)) hp
    exact ⟨hps, hbe.trans hbes⟩

lemma Sim.beside_putUser {a : ArmState σ} {f : RegFile} (h : Sim a f) {r : Nat} (hr : r < 15)
    (v : UInt32) : Beside a (putUser a r v) := by
  rw [putUser, h.usrregs r hr, userPtr]
  split
  · exact Beside.setReg a hr v
  · exact ⟨rfl, rfl, rfl, rfl⟩

section Transfers

variable {a : ArmState σ} {f : RegFile} (h : Sim a f) (bus : Bus σ) (op address writeback : UInt32)
include h

lemma sim_storeUser :
    Sim (armStoreMultipleS bus op a address writeback)
        (f.run (baseAct op ((armStoreMultipleS bus op a address writeback).reg (rn op)))) ∧
      Beside a (armStoreMultipleS bus op a address writeback) := by
  have hworld : ∀ (t : ArmState σ) w, Beside t (t.withWorld w) := fun _ _ => ⟨rfl, rfl, rfl, rfl⟩
  obtain ⟨w, ht | ⟨hn, v, ht⟩⟩ : BaseOnly op a (armStoreMultipleS bus op a address writeback) :=
    BaseOnly.storeMultiple bus steady_usrregs address writeback
  · have hself : a.setReg (rn op) (a.reg (rn op)) = a := by
      rw [ArmState.setReg, Function.update_eq_self]
    have hbase := h.base op (a.reg (rn op)) fun h15 => by rw [h15]
    rw [hself] at hbase
    rw [ht]
    exact ⟨hbase.1.congr (sameBanks_withWorld a w), hworld a w⟩
  · have hv : ((a.setReg (rn op) v).withWorld w).reg (rn op) = v := Function.update_self _ _ _
    have hbase := h.base op v fun h15 => absurd h15 hn
    rw [ht, hv]
    exact ⟨hbase.1.congr (sameBanks_withWorld _ w), hbase.2.trans (hworld _ w)⟩

lemma sim_loaded {put : ArmState σ → Nat → UInt32 → ArmState σ} {act : Nat → UInt32 → Act}
    (hput : ∀ {a : ArmState σ} {f : RegFile}, Sim a f → ∀ {r : Nat}, r < 15 → ∀ v,
      Sim (put a r v) (f.act (act r v)) ∧ Beside a (put a r v)) :
    Sim (loaded bus op a put address writeback)
        (f.run ((if writesBack op then baseAct op writeback else []) ++
          (fetched bus op a address).1.map fun p => act p.1 p.2)) ∧
      Beside a (loaded bus op a put address writeback) := by
  obtain ⟨hbase, hbe⟩ := h.withBase op writeback
  have hlt : ∀ p ∈ (fetched bus op a address).1, p.1 < 15 :=
    fun p hp => mem_regList (mem_of_mem_loadWords bus hp)
  obtain ⟨hall, hbe'⟩ := Sim.putAll hput hlt hbase
  rw [RegFile.run_append]
  exact ⟨hall.congr (sameBanks_withWorld _ _), (hbe.trans hbe').trans ⟨rfl, rfl, rfl, rfl⟩⟩

lemma sim_loadUser_r15 (hm : validMode a.mode = true) (hr15 : listsR15 op = true) :
    Sim (armLoadMultipleS bus op a address writeback)
        (f.run (loadUserActs bus op a address writeback)) ∧
      (armLoadMultipleS bus op a address writeback).prog32 = a.prog32 := by
  have hwrite : ∀ {a : ArmState σ} {f : RegFile}, Sim a f → ∀ {r : Nat}, r < 15 → ∀ v,
      Sim (a.setReg r v) (f.act (.write r v)) ∧ Beside a (a.setReg r v) :=
    fun h _ hr v => ⟨h.write hr v, Beside.setReg _ hr v⟩
  obtain ⟨hsim, hbe⟩ := sim_loaded h bus op address writeback hwrite
  have hload : armLoadMultipleS bus op a address writeback =
      loadMultiple bus op a ArmState.setReg address writeback (loadR15 bus armWriteR15) := by
    simp [armLoadMultipleS, hr15]
  set w := (fetchedR15 bus op a address).2 with hw
  have hbe' : Beside a ((loaded bus op a ArmState.setReg address writeback).withWorld w) :=
    hbe.trans ⟨rfl, rfl, rfl, rfl⟩
  have hsim' := hsim.congr (sameBanks_withWorld _ w)
  have hacts : ∀ more, (if loadUserAborts bus op a address then
        baseAct op (abortedBase op a writeback)
      else [.enter (armLoadMultipleS bus op a address writeback).mode]) = more →
      loadUserActs bus op a address writeback =
        ((if writesBack op then baseAct op writeback else []) ++
          (fetched bus op a address).1.map fun p => Act.write p.1 p.2) ++ more := by
    rintro more rfl
    simp only [loadUserActs, hr15, if_true]
  by_cases hab : (fetched bus op a address).2.aborted = true
  · rw [hacts _ (if_pos (by simp [loadUserAborts, hab])), RegFile.run_append, hload,
      loadMultiple_aborted placing_setReg hab]
    obtain ⟨hs, hb⟩ := hsim.loadAborted hbe op writeback
    exact ⟨hs, hb.prog32.trans hbe.prog32⟩
  · rw [Bool.not_eq_true] at hab
    by_cases hab' : w.aborted = true
    · have haborts : loadUserAborts bus op a address = true := by
        simp only [loadUserAborts, hab, hr15, Bool.false_or, Bool.true_and]
        exact hab'
      rw [hacts _ (if_pos haborts), RegFile.run_append, hload,
        loadMultiple_r15_aborted placing_setReg hab hab']
      obtain ⟨hs, hb⟩ := hsim'.loadAborted hbe' op writeback
      exact ⟨hs, hb.prog32.trans hbe'.prog32⟩
    · rw [Bool.not_eq_true] at hab'
      have haborts : ¬ loadUserAborts bus op a address = true := by
        simp only [loadUserAborts, hab, hr15, Bool.false_or, Bool.true_and]
        simp only [hw, fetchedR15] at hab'
        simp [hab']
      rw [hacts _ (if_neg haborts), RegFile.run_append, hload,
        loadMultiple_r15 placing_setReg hab hab']
      exact ⟨sim_writeR15 hsim' (hbe'.mode ▸ hm) _, (Kept.armWriteR15 _ _).prog32.trans hbe'.prog32⟩

lemma sim_loadUser_bank (hr15 : listsR15 op = false) :
    Sim (armLoadMultipleS bus op a address writeback)
        (f.run (loadUserActs bus op a address writeback)) ∧
      (armLoadMultipleS bus op a address writeback).prog32 = a.prog32 := by
  have hwrite : ∀ {a : ArmState σ} {f : RegFile}, Sim a f → ∀ {r : Nat}, r < 15 → ∀ v,
      Sim (putUser a r v) (f.act (.writeUser r v)) ∧ Beside a (putUser a r v) :=
    fun h _ hr v => ⟨h.writeUser hr v, h.beside_putUser hr v⟩
  obtain ⟨hsim, hbe⟩ := sim_loaded h bus op address writeback hwrite
  have hload : armLoadMultipleS bus op a address writeback =
      loadMultiple bus op a putUser address writeback fun _ a => (false, a) := by
    simp [armLoadMultipleS, hr15]
  have haborts : loadUserAborts bus op a address = (fetched bus op a address).2.aborted := by
    simp [loadUserAborts, hr15]
  simp only [loadUserActs, hr15, Bool.false_eq_true, if_false, haborts]
  rw [RegFile.run_append]
  by_cases hab : (fetched bus op a address).2.aborted = true
  · rw [if_pos hab, hload, loadMultiple_aborted placing_putUser hab]
    obtain ⟨hs, hb⟩ := hsim.loadAborted hbe op writeback
    exact ⟨hs, hb.prog32.trans hbe.prog32⟩
  · rw [if_neg hab, hload, loadMultiple_done placing_putUser (Bool.not_eq_true _ ▸ hab)]
    refine ⟨?_, hbe.prog32⟩
    have hself := hsim.enter_self
    simp only [RegFile.run, List.foldl_cons, List.foldl_nil] at hself ⊢
    rw [hself]
    exact hsim

end Transfers

/-! ## Every run -/

section Run

variable (bus : Bus σ)

def runChanges (a : ArmState σ) (cs : List Change) : ArmState σ :=
  cs.foldl (fun a c => c.apply bus a) a

def runActs : ArmState σ → List Change → List Act
  | _, [] => []
  | a, c :: cs => c.acts bus a ++ runActs (c.apply bus a) cs

/-- Every change leaves a mode there is, and no write is to R15. -/
def Legal : ArmState σ → List Change → Prop
  | _, [] => True
  | a, c :: cs =>
    (∀ r v, c = .write r v → r < 15) ∧ validMode (c.apply bus a).mode = true ∧
      Legal (c.apply bus a) cs

/-- **A step**: every change is to the core what it is to the register file. -/
lemma sim_step {a : ArmState σ} {f : RegFile} (h : Sim a f) (hm : validMode a.mode = true)
    (hp : a.prog32 = true) (c : Change) (hc : ∀ r v, c = .write r v → r < 15) :
    Sim (c.apply bus a) (f.run (c.acts bus a)) ∧ (c.apply bus a).prog32 = true := by
  cases c with
  | write r v => exact ⟨h.write (hc r v rfl) v, hp⟩
  | exception mmode address diff =>
    exact ⟨sim_exception h hm hp mmode address diff, (Kept.exception _ _ _ _).prog32.trans hp⟩
  | writeCpsr op value =>
    exact ⟨sim_writeCpsr h hm op value, (Kept.armWriteCpsr _ _ _).prog32.trans hp⟩
  | compareRd15 dest => exact ⟨sim_compareRd15 h hm dest, (Kept.armCompareRd15 _ _).prog32.trans hp⟩
  | writeR15 dest => exact ⟨sim_writeR15 h hm dest, (Kept.armWriteR15 _ _).prog32.trans hp⟩
  | loadUser op address writeback =>
    cases hr15 : listsR15 op with
    | false =>
      obtain ⟨hs, hp'⟩ := sim_loadUser_bank h bus op address writeback hr15
      exact ⟨hs, hp'.trans hp⟩
    | true =>
      obtain ⟨hs, hp'⟩ := sim_loadUser_r15 h bus op address writeback hm hr15
      exact ⟨hs, hp'.trans hp⟩
  | storeUser op address writeback =>
    obtain ⟨hs, hbe⟩ := sim_storeUser h bus op address writeback
    exact ⟨hs, hbe.prog32.trans hp⟩

/-- **A run.** -/
lemma sim_run {a : ArmState σ} {f : RegFile} (h : Sim a f) (hm : validMode a.mode = true)
    (hp : a.prog32 = true) {cs : List Change} (hl : Legal bus a cs) :
    Sim (runChanges bus a cs) (f.run (runActs bus a cs)) := by
  induction cs generalizing a f with
  | nil => exact h
  | cons c cs ih =>
    obtain ⟨hc, hm', hl'⟩ := hl
    obtain ⟨hs, hp'⟩ := sim_step bus h hm hp c hc
    rw [runActs, RegFile.run_append]
    exact ih hs hm' hp' hl'

def fileOf (a : ArmState σ) : RegFile := ⟨a.mode, banked a⟩

lemma sim_fileOf {a : ArmState σ} (h : ∀ r < 15, a.usrregs r = userPtr a.mode r) :
    Sim a (fileOf a) := ⟨rfl, fun _ _ _ _ => rfl, h⟩

/-- **Banking is the architecture's register file.**  From a core whose `usrregs` a change of mode has
set up, whatever run of exceptions, status writes, User-bank transfers and register writes follows: the
current registers are those the register file shows to the mode, and `*usrregs[r]` is register `r` of
User mode. -/
theorem banks_are_register_file (a : ArmState σ) (hu : ∀ r < 15, a.usrregs r = userPtr a.mode r)
    (hm : validMode a.mode = true) (hp : a.prog32 = true) (cs : List Change)
    (hl : Legal bus a cs) :
    let t := runChanges bus a cs
    let g := (fileOf a).run (runActs bus a cs)
    t.mode = g.mode ∧ (∀ r < 15, t.reg r = g.read r) ∧
      ∀ r < 15, t.readPtr (t.usrregs r) = g.get .usr r := by
  have hsim := sim_run bus (sim_fileOf hu) hm hp hl
  exact ⟨hsim.mode, fun r hr => hsim.reg hr, fun r hr => hsim.readPtr hr⟩

end Run

def emptyBus : Bus Unit where
  read32 _ _ w := (0, w)
  read8 _ _ w := (0, w)
  write32 _ _ _ w := w
  write8 _ _ _ w := w
  cp15Read _ _ := 0
  cp15Write _ _ w := w
  fpa _ _ := .undefined
  swi _ a := .real a.world

def interruptRun : List Change :=
  [.write 13 0x1000, .exception irq 0x18 4, .write 13 0x2000, .loadUser 0xe8506000 0x8000 0x8008,
    .writeCpsr 0x00010000 0x1f]

theorem banks_are_register_file_interrupt :
    let t := runChanges emptyBus (armReset .sa110 true ⟨0, ()⟩) interruptRun
    let g := (fileOf (armReset .sa110 true ⟨0, ()⟩)).run
      (runActs emptyBus (armReset .sa110 true ⟨0, ()⟩) interruptRun)
    t.mode = 0x1f ∧ t.mode = g.mode ∧ (∀ r < 15, t.reg r = g.read r) ∧
      ∀ r < 15, t.readPtr (t.usrregs r) = g.get .usr r := by
  refine ⟨by decide, banks_are_register_file emptyBus _ (by decide) (by decide) (by decide)
    interruptRun ?_⟩
  refine ⟨?_, by decide, ?_, by decide, ?_, by decide, ?_, by decide, ?_, by decide, trivial⟩ <;>
    · rintro r v h
      cases h <;> decide

end RpcEmu.Arm
