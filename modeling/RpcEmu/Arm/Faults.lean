import RpcEmu.Arm.Exec
import RpcEmu.Arm.Banks
import RpcEmu.Lib.Overlay

/-!
# Memory that aborts

The memory is bytes, with an oracle for the accesses that abort: `faultyBus`, and `soundBus` where none
does.  An instruction makes each of its accesses at a place of its own, so that an oracle by place,
direction and privilege can make any of them abort.

* **Single transfers** look at the abort before they change anything, so the core is as it was.
* **Stores of several registers** have written some of the words, which the second time writes again.
-/

namespace RpcEmu.Arm

open Overlay Pages Masks

/-! ## Memory that aborts -/

abbrev Ram := UInt32 → UInt8

def wordPatch (addr v : UInt32) : Patch UInt32 UInt8 := fun x =>
  if x - addr < 4 then some (v >>> (8 * (x - addr))).toUInt8 else none

def bytePatch (addr : UInt32) (v : UInt8) : Patch UInt32 UInt8 := fun x =>
  if x = addr then some v else none

def readWord (m : Ram) (addr : UInt32) : UInt32 :=
  (m addr).toUInt32 ||| ((m (addr + 1)).toUInt32 <<< 8) ||| ((m (addr + 2)).toUInt32 <<< 16) |||
    ((m (addr + 3)).toUInt32 <<< 24)

def World.fault (w : World Ram) : World Ram := { w with event := w.event ||| 0x40 }

def World.patch (w : World Ram) (p : Patch UInt32 UInt8) : World Ram :=
  { w with mem := overlay p w.mem }

/-- Which accesses abort: by privilege, direction (`true` is a write) and address. -/
abbrev Oracle := Bool → Bool → UInt32 → Bool

/-- A memory in which some accesses abort; a read that does returns `junk`. -/
def faultyBus (aborts : Oracle) (junk : UInt32) : Bus Ram where
  read32 priv addr w := if aborts priv false addr then (junk, w.fault) else (readWord w.mem addr, w)
  read8 priv addr w := if aborts priv false addr then (junk.toUInt8, w.fault) else (w.mem addr, w)
  write32 priv addr v w := if aborts priv true addr then w.fault else w.patch (wordPatch addr v)
  write8 priv addr v w := if aborts priv true addr then w.fault else w.patch (bytePatch addr v)
  cp15Read _ _ := 0
  cp15Write _ _ w := w
  fpa _ _ := .undefined
  swi _ a := .real a.world

def soundBus : Bus Ram := faultyBus (fun _ _ _ => false) 0

def resume (t : ArmState Ram) : ArmState Ram :=
  t.withWorld { t.world with event := t.world.event &&& ~~~0x40 }

section Faults

lemma fault_aborted (w : World Ram) : w.fault.aborted = true := by
  have hbit : bit (w.event ||| 0x40) 6 = true := by simp [show bit 0x40 6 = true by decide]
  show (w.event ||| 0x40) &&& 0x40 != 0
  rw [and_single (i := 6) (by decide), if_pos hbit]
  decide

lemma fault_event {w : World Ram} (hw : w.aborted = false) : w.fault.event &&& ~~~0x40 = w.event := by
  have h6 : bit w.event 6 = false := by
    have hand := and_single (m := 0x40) (i := 6) (by decide) w.event
    cases h : bit w.event 6 with
    | false => rfl
    | true =>
      rw [h, if_pos rfl] at hand
      rw [World.aborted, hand] at hw
      exact absurd hw (by decide)
  apply ext_bit
  intro i hi
  have h40 : bit 0x40 i = decide (i = 6) :=
    (show ∀ j : Fin 32, bit 0x40 j = decide (j.val = 6) by decide) ⟨i, hi⟩
  show bit ((w.event ||| 0x40) &&& ~~~0x40) i = bit w.event i
  rw [bit_and, bit_or, bit_not _ hi, h40]
  by_cases hi6 : i = 6
  · simp [hi6, h6]
  · simp [hi6]

@[simp] lemma patch_aborted (w : World Ram) (p : Patch UInt32 UInt8) :
    (w.patch p).aborted = w.aborted := rfl

lemma resume_fault {w : World Ram} (hw : w.aborted = false) (a : ArmState Ram) :
    resume (a.withWorld w.fault) = a.withWorld w := by
  have h := fault_event hw
  simp only [resume, ArmState.withWorld, World.fault] at h ⊢
  rw [h]

end Faults

/-! ## One access -/

/-- The store patches the memory or faults. -/
def Stores (store : Store Ram) : Prop :=
  ∀ a addr data, store a addr data = a.withWorld a.world.fault ∨
    ∃ p, store a addr data = a.withWorld (a.world.patch p)

/-- The load faults or changes nothing. -/
def Loads (load : Load Ram) : Prop :=
  ∀ a addr, (load a addr).2 = a.withWorld a.world.fault ∨ (load a addr).2 = a

section Single

variable (aborts : Oracle) (junk : UInt32)

lemma stores_word : Stores (wordStore (faultyBus aborts junk)) := by
  intro a addr data
  simp only [wordStore, memWrite32, faultyBus]
  split
  · exact Or.inl rfl
  · exact Or.inr ⟨_, rfl⟩

lemma stores_byte : Stores (byteStore (faultyBus aborts junk)) := by
  intro a addr data
  simp only [byteStore, memWrite8, faultyBus]
  split
  · exact Or.inl rfl
  · exact Or.inr ⟨_, rfl⟩

lemma stores_wordUser : Stores (wordUserStore (faultyBus aborts junk)) := by
  intro a addr data
  simp only [wordUserStore, memUserWrite32, faultyBus]
  split
  · exact Or.inl rfl
  · exact Or.inr ⟨_, rfl⟩

lemma stores_byteUser : Stores (byteUserStore (faultyBus aborts junk)) := by
  intro a addr data
  simp only [byteUserStore, memUserWrite8, faultyBus]
  split
  · exact Or.inl rfl
  · exact Or.inr ⟨_, rfl⟩

lemma read32_cases (a : ArmState Ram) (priv : Bool) (addr : UInt32) :
    { a with world := ((faultyBus aborts junk).read32 priv addr a.world).2 } =
      a.withWorld a.world.fault ∨
    { a with world := ((faultyBus aborts junk).read32 priv addr a.world).2 } = a := by
  simp only [faultyBus]
  split
  · exact Or.inl rfl
  · exact Or.inr rfl

lemma read8_cases (a : ArmState Ram) (priv : Bool) (addr : UInt32) :
    { a with world := ((faultyBus aborts junk).read8 priv addr a.world).2 } =
      a.withWorld a.world.fault ∨
    { a with world := ((faultyBus aborts junk).read8 priv addr a.world).2 } = a := by
  simp only [faultyBus]
  split
  · exact Or.inl rfl
  · exact Or.inr rfl

lemma loads_word : Loads (wordLoad (faultyBus aborts junk)) :=
  fun a _ => read32_cases aborts junk a a.memmode _

lemma loads_byte : Loads (byteLoad (faultyBus aborts junk)) :=
  fun a _ => read8_cases aborts junk a a.memmode _

lemma loads_wordUser : Loads (wordUserLoad (faultyBus aborts junk)) :=
  fun a _ => read32_cases aborts junk a false _

lemma loads_byteUser : Loads (byteUserLoad (faultyBus aborts junk)) :=
  fun a _ => read8_cases aborts junk a false _

end Single

/-! ## Single transfers -/

@[simp] lemma writeBase_world (op : UInt32) (t : ArmState Ram) (addr offset : UInt32) :
    (writeBase op t addr offset).world = t.world := by
  unfold writeBase
  split
  · rfl
  · split <;> rfl

@[simp] lemma writeHalfBase_world (op : UInt32) (t : ArmState Ram) (addr offset : UInt32) :
    (writeHalfBase op t addr offset).world = t.world := by
  unfold writeHalfBase
  split
  · rfl
  · split <;> rfl

@[simp] lemma loadreg_world (t : ArmState Ram) (r : Nat) (v : UInt32) :
    (loadreg t r v).world = t.world := by
  unfold loadreg
  split <;> rfl

lemma aborted_eq (t : ArmState Ram) : t.aborted = t.world.aborted := rfl

lemma restored_fault {a : ArmState Ram} (habr : a.abortBaseRestored = true) :
    ((a.withWorld a.world.fault).abortBaseRestored && (a.withWorld a.world.fault).aborted) = true := by
  rw [withWorld_aborted, fault_aborted, Bool.and_true]
  exact habr

section SingleTransfers

variable {op : UInt32} {a : ArmState Ram} (hev : a.aborted = false)
include hev

lemma swapOp_aborted {load : Load Ram} {store : Store Ram} (hl : Loads load) (hs : Stores store)
    (h : (swapOp op a load store).aborted = true) :
    swapOp op a load store = a.withWorld a.world.fault := by
  unfold swapOp at h ⊢
  split at h
  · exact absurd (h.symm.trans hev) (by decide)
  · dsimp only at h ⊢
    rename_i hrd
    rw [if_neg hrd]
    rcases hl a (getaddr a (rn op)) with hlo | hlo <;> rw [hlo] at h ⊢
    · rw [withWorld_aborted, if_pos (fault_aborted _)]
    · rw [hev] at h ⊢
      simp only [Bool.false_eq_true, if_false] at h ⊢
      rcases hs a (getaddr a (rn op)) (getreg a (rm op)) with hst | ⟨p, hst⟩ <;> rw [hst] at h ⊢
      · rw [withWorld_aborted, if_pos (fault_aborted _)]
      · rw [withWorld_aborted, patch_aborted, ← aborted_eq, hev] at h
        simp only [Bool.false_eq_true, if_false] at h
        rw [aborted_eq, loadreg_world, withWorld_world, patch_aborted, ← aborted_eq, hev] at h
        exact absurd h (by decide)

lemma loadHalf_aborted {load : Load Ram} (hl : Loads load)
    (h : (loadHalf op a load).aborted = true) :
    loadHalf op a load = a.withWorld a.world.fault := by
  unfold loadHalf at h ⊢
  dsimp only at h ⊢
  rcases hl a (halfAddr op a) with hlo | hlo <;> rw [hlo] at h ⊢
  · rw [withWorld_aborted, if_pos (fault_aborted _)]
  · rw [hev] at h
    simp only [Bool.false_eq_true, if_false] at h
    rw [aborted_eq, loadreg_world, writeHalfBase_world, ← aborted_eq, hev] at h
    exact absurd h (by decide)

variable (habr : a.abortBaseRestored = true)
include habr

lemma storeSingle_aborted {store : Store Ram} (hs : Stores store)
    (h : (storeSingle op a store).aborted = true) :
    storeSingle op a store = a.withWorld a.world.fault := by
  unfold storeSingle at h ⊢
  dsimp only at h ⊢
  rcases hs a (transferAddr op a) (getreg a (rd op)) with hst | ⟨p, hst⟩ <;> rw [hst] at h ⊢
  · rw [if_pos (restored_fault habr)]
  · rw [withWorld_aborted, patch_aborted, ← aborted_eq, hev, Bool.and_false] at h
    simp only [Bool.false_eq_true, if_false] at h
    rw [aborted_eq, writeBase_world, withWorld_world, patch_aborted, ← aborted_eq, hev] at h
    exact absurd h (by decide)

lemma loadSingle_aborted {load : Load Ram} (hl : Loads load)
    (h : (loadSingle op a load).aborted = true) :
    loadSingle op a load = a.withWorld a.world.fault := by
  unfold loadSingle at h ⊢
  dsimp only at h ⊢
  rcases hl a (transferAddr op a) with hlo | hlo <;> rw [hlo] at h ⊢
  · rw [if_pos (restored_fault habr)]
  · have hbase : (writeBase op a (transferAddr op a) (transferOffset op a)).aborted = false := by
      rw [aborted_eq, writeBase_world]
      exact hev
    rw [hev, Bool.and_false] at h
    simp only [Bool.false_eq_true, if_false, hbase] at h
    rw [aborted_eq, loadreg_world, writeBase_world, ← aborted_eq, hev] at h
    exact absurd h (by decide)

lemma storeUser_aborted {store : Store Ram} (hs : Stores store)
    (h : (storeUser op a store).aborted = true) :
    storeUser op a store = a.withWorld a.world.fault := by
  unfold storeUser at h ⊢
  dsimp only at h ⊢
  rcases hs a (getaddr a (rn op)) (getreg a (rd op)) with hst | ⟨p, hst⟩ <;> rw [hst] at h ⊢
  · rw [if_pos (restored_fault habr)]
  · rw [withWorld_aborted, patch_aborted, ← aborted_eq, hev, Bool.and_false] at h
    simp only [Bool.false_eq_true, if_false] at h
    exact absurd (h.symm.trans hev) (by decide)

lemma loadUser_aborted {load : Load Ram} (hl : Loads load)
    (h : (loadUser op a load).aborted = true) :
    loadUser op a load = a.withWorld a.world.fault := by
  unfold loadUser at h ⊢
  dsimp only at h ⊢
  rcases hl a (getaddr a (rn op)) with hlo | hlo <;> rw [hlo] at h ⊢
  · rw [if_pos (restored_fault habr)]
  · have hbase : ∀ v, (a.setReg (rn op) v).aborted = false := fun _ => hev
    rw [hev, Bool.and_false] at h
    simp only [Bool.false_eq_true, if_false, hbase] at h
    rw [aborted_eq, loadreg_world] at h
    exact absurd (h.symm.trans hev) (by decide)

end SingleTransfers

/-! ## Stores of more than one place -/

def wordPatches : List UInt32 → UInt32 → List (Patch UInt32 UInt8)
  | [], _ => []
  | v :: vs, addr => wordPatch addr v :: wordPatches vs (addr + 4)

def World.patchAll (w : World Ram) (ps : List (Patch UInt32 UInt8)) : World Ram :=
  { w with mem := overlayAll ps w.mem }

/-- Some of the words have been stored, and then one faulted. -/
def PartlyStored (ps : List (Patch UInt32 UInt8)) (w w' : World Ram) : Prop :=
  ∃ qs, (∀ q ∈ qs, q ∈ ps) ∧ w' = (w.patchAll qs).fault

lemma patchAll_resume {ps : List (Patch UInt32 UInt8)} {a : ArmState Ram} (hev : a.aborted = false)
    {w' : World Ram} (h : PartlyStored ps a.world w') :
    ∃ w, resume (a.withWorld w') = a.withWorld w ∧ w.aborted = false ∧
      w.patchAll ps = a.world.patchAll ps := by
  obtain ⟨qs, hqs, rfl⟩ := h
  refine ⟨a.world.patchAll qs, resume_fault (w := a.world.patchAll qs) hev a, hev, ?_⟩
  simp only [World.patchAll, overlayAll_absorb hqs]

lemma storeWords_sound (priv : Bool) (vs : List UInt32) (addr : UInt32) {w : World Ram}
    (hw : w.aborted = false) : (storeWords soundBus priv vs addr w).aborted = false ∧
      (storeWords soundBus priv vs addr w).world = w.patchAll (wordPatches vs addr) := by
  induction vs generalizing addr w with
  | nil => exact ⟨rfl, rfl⟩
  | cons v vs ih =>
    have hwrite : soundBus.write32 priv addr v w = w.patch (wordPatch addr v) := rfl
    have hpatch : (w.patch (wordPatch addr v)).aborted = false := hw
    obtain ⟨hab, hworld⟩ := ih (addr + 4) hpatch
    simp only [storeWords, hwrite, hpatch, Bool.false_eq_true, if_false]
    exact ⟨hab, hworld⟩

lemma storeWords_faulty (aborts : Oracle) (junk : UInt32) (priv : Bool) (vs : List UInt32)
    (addr : UInt32) {w : World Ram} (hw : w.aborted = false)
    (h : (storeWords (faultyBus aborts junk) priv vs addr w).aborted = true) :
    PartlyStored (wordPatches vs addr) w (storeWords (faultyBus aborts junk) priv vs addr w).world := by
  induction vs generalizing addr w with
  | nil => exact absurd h (by simp [storeWords])
  | cons v vs ih =>
    by_cases hab : aborts priv true addr = true
    · have hwrite : (faultyBus aborts junk).write32 priv addr v w = w.fault := if_pos hab
      simp only [storeWords, hwrite, fault_aborted, if_true]
      exact ⟨[], by simp, rfl⟩
    · have hwrite : (faultyBus aborts junk).write32 priv addr v w = w.patch (wordPatch addr v) :=
        if_neg hab
      have hpatch : (w.patch (wordPatch addr v)).aborted = false := hw
      simp only [storeWords, hwrite, hpatch, Bool.false_eq_true, if_false] at h ⊢
      obtain ⟨qs, hqs, hw'⟩ := ih (addr + 4) hpatch h
      refine ⟨wordPatch addr v :: qs, ?_, hw'⟩
      intro q hq
      rcases List.mem_cons.mp hq with rfl | hq
      · exact List.mem_cons_self
      · exact List.mem_cons_of_mem _ (hqs q hq)

section Halfword

variable {op : UInt32} {a : ArmState Ram} (hev : a.aborted = false)

def halfPatches (op : UInt32) (a : ArmState Ram) : List (Patch UInt32 UInt8) :=
  [bytePatch (halfAddr op a &&& ~~~1) (getreg a (rd op)).toUInt8,
    bytePatch (halfAddr op a ||| 1) (getreg a (rd op) >>> 8).toUInt8]

include hev

lemma armStrh_sound : armStrh soundBus op a =
    writeHalfBase op (a.withWorld (a.world.patchAll (halfPatches op a))) (halfAddr op a)
      (halfOffset op a) := by
  have hab : (a.withWorld (a.world.patchAll (halfPatches op a))).aborted = false := hev
  have h : armStrh soundBus op a =
      if (a.withWorld (a.world.patchAll (halfPatches op a))).aborted then
        a.withWorld (a.world.patchAll (halfPatches op a))
      else writeHalfBase op (a.withWorld (a.world.patchAll (halfPatches op a))) (halfAddr op a)
        (halfOffset op a) := rfl
  rw [h, hab]
  rfl

lemma armStrh_aborted (aborts : Oracle) (junk : UInt32)
    (h : (armStrh (faultyBus aborts junk) op a).aborted = true) :
    ∃ w, armStrh (faultyBus aborts junk) op a = a.withWorld w ∧
      PartlyStored (halfPatches op a) a.world w := by
  set bus := faultyBus aborts junk with hbus
  set w := bus.write8 a.memmode (halfAddr op a ||| 1) (getreg a (rd op) >>> 8).toUInt8
    (bus.write8 a.memmode (halfAddr op a &&& ~~~1) (getreg a (rd op)).toUInt8 a.world) with hw
  have hunfold : armStrh bus op a = if (a.withWorld w).aborted then a.withWorld w
      else writeHalfBase op (a.withWorld w) (halfAddr op a) (halfOffset op a) := rfl
  have hab : w.aborted = true := by
    rw [hunfold] at h
    split at h
    · exact h
    · rwa [aborted_eq, writeHalfBase_world] at h
  refine ⟨w, by rw [hunfold, withWorld_aborted, if_pos hab], ?_⟩
  have htwice : a.world.fault.fault = a.world.fault := by
    simp only [World.fault, UInt32.or_assoc, UInt32.or_self]
  -- the second byte is written whether or not the first one aborted
  simp only [hbus, faultyBus] at hw
  split at hw <;> split at hw
  · exact ⟨[], by simp, hw.trans htwice⟩
  · exact ⟨[_], by simp [halfPatches], hw⟩
  · exact ⟨[_], by simp [halfPatches], hw⟩
  · rw [hw] at hab
    exact absurd (hab.symm.trans hev) (by decide)

end Halfword

/-! ## STM -/

section StoreMultiple

variable {op : UInt32} {a : ArmState Ram} {value : ArmState Ram → Nat → UInt32} (hv : Steady value)
  (hstm : a.stmWritebackAtEnd = true) (hev : a.aborted = false) (address writeback : UInt32)

lemma storeWords_world_aborted {σ : Type} (bus : Bus σ) (priv : Bool) (vs : List UInt32)
    (addr : UInt32) {w : World σ} (hw : w.aborted = false) :
    (storeWords bus priv vs addr w).world.aborted = (storeWords bus priv vs addr w).aborted := by
  induction vs generalizing addr w with
  | nil => exact hw
  | cons v vs ih =>
    simp only [storeWords]
    by_cases hab : (bus.write32 priv addr v w).aborted = true
    · simp [hab]
    · simp only [hab, Bool.false_eq_true, if_false]
      exact ih _ (by simpa using hab)

def stmPatches (op : UInt32) (a : ArmState Ram) (value : ArmState Ram → Nat → UInt32)
    (address : UInt32) : List (Patch UInt32 UInt8) :=
  wordPatches (stmWords op a value) (address &&& ~~~3)

include hv hstm hev

lemma storeMultiple_aborted (aborts : Oracle) (junk : UInt32)
    (h : (storeMultiple (faultyBus aborts junk) op a value address writeback).aborted = true) :
    ∃ w, storeMultiple (faultyBus aborts junk) op a value address writeback = a.withWorld w ∧
      PartlyStored (stmPatches op a value address) a.world w := by
  rw [storeMultiple_eq _ op a hv hstm hev] at h ⊢
  set e := storeWords (faultyBus aborts junk) a.memmode (stmWords op a value) (address &&& ~~~3)
    a.world with he
  have hworld : e.world.aborted = e.aborted := storeWords_world_aborted _ _ _ _ hev
  dsimp only at h ⊢
  by_cases hab : e.aborted = true
  · rw [if_pos hab]
    exact ⟨e.world, rfl, storeWords_faulty aborts junk _ _ _ hev hab⟩
  · rw [if_neg hab, withWorld_aborted, hworld] at h
    exact absurd h hab

lemma storeMultiple_sound : storeMultiple soundBus op a value address writeback =
    (withBase op a writeback).withWorld (a.world.patchAll (stmPatches op a value address)) := by
  obtain ⟨hab, hworld⟩ := storeWords_sound a.memmode (stmWords op a value) (address &&& ~~~3)
    (w := a.world) hev
  rw [storeMultiple_eq _ op a hv hstm hev]
  simp only [hab, Bool.false_eq_true, if_false, hworld]
  rfl

/-- **STM, the second time.** -/
lemma storeMultiple_restarts (aborts : Oracle) (junk : UInt32)
    (h : (storeMultiple (faultyBus aborts junk) op a value address writeback).aborted = true) :
    storeMultiple soundBus op (resume (storeMultiple (faultyBus aborts junk) op a value address
      writeback)) value address writeback = storeMultiple soundBus op a value address writeback := by
  obtain ⟨w', ht, hpart⟩ := storeMultiple_aborted hv hstm hev address writeback aborts junk h
  obtain ⟨w, hres, hw, hpatch⟩ := patchAll_resume hev hpart
  have hpatches : stmPatches op (a.withWorld w) value address = stmPatches op a value address := by
    have hmap : (regList op).map (value (a.withWorld w)) = (regList op).map (value a) :=
      List.map_congr_left fun c _ => hv a w c
    simp only [stmPatches, stmWords, hmap]
    rfl
  have hbase : withBase op (a.withWorld w) writeback = (withBase op a writeback).withWorld w := by
    unfold withBase
    split <;> rfl
  rw [ht, hres, storeMultiple_sound hv hstm hev,
    storeMultiple_sound (a := a.withWorld w) hv hstm hw, hpatches, withWorld_world, hpatch, hbase]
  rfl

end StoreMultiple

end RpcEmu.Arm
