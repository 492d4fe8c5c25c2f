import RpcEmu.Arm.Transfer

/-!
# What a multiple transfer does

The loops of LDM and STM touch the registers and the memory in turns, but neither looks at what the
other has done: the words a load fetches do not depend on where they are put, and the words a store
sends are there before it starts.  So a transfer is a run of accesses (`loadWords`, `storeWords`), which
changes the world alone, and then the registers as they come out of it.
-/

namespace RpcEmu.Arm

variable {σ : Type} (bus : Bus σ)

def ArmState.withWorld (a : ArmState σ) (w : World σ) : ArmState σ := { a with world := w }

@[simp] lemma withWorld_withWorld (a : ArmState σ) (w w' : World σ) :
    (a.withWorld w).withWorld w' = a.withWorld w' := rfl

@[simp] lemma withWorld_world (a : ArmState σ) (w : World σ) : (a.withWorld w).world = w := rfl

@[simp] lemma withWorld_memmode (a : ArmState σ) (w : World σ) :
    (a.withWorld w).memmode = a.memmode := rfl

lemma withWorld_setReg (a : ArmState σ) (w : World σ) (r : Nat) (v : UInt32) :
    (a.withWorld w).setReg r v = (a.setReg r v).withWorld w := rfl

def World.aborted (w : World σ) : Bool := w.event &&& 0x40 != 0

@[simp] lemma withWorld_aborted (a : ArmState σ) (w : World σ) :
    (a.withWorld w).aborted = w.aborted := rfl

lemma memRead32_eq (a : ArmState σ) (addr : UInt32) :
    memRead32 bus a addr = ((bus.read32 a.memmode addr a.world).1,
      a.withWorld (bus.read32 a.memmode addr a.world).2) := rfl

structure Ended (σ : Type) where
  aborted : Bool
  addr : UInt32
  world : World σ

/-! ## Stores -/

def storeWords (priv : Bool) : List UInt32 → UInt32 → World σ → Ended σ
  | [], addr, w => ⟨false, addr, w⟩
  | v :: vs, addr, w =>
    let w := bus.write32 priv addr v w
    if w.aborted then ⟨true, addr, w⟩ else storeWords priv vs (addr + 4) w

/-- The values stored do not depend on the memory. -/
def Steady (value : ArmState σ → Nat → UInt32) : Prop :=
  ∀ (a : ArmState σ) (w : World σ) (c : Nat), value (a.withWorld w) c = value a c

lemma steady_reg : Steady (fun (a : ArmState σ) c => a.reg c) := fun _ _ _ => rfl

lemma steady_usrregs : Steady (fun (a : ArmState σ) c => a.readPtr (a.usrregs c)) := by
  intro a w c
  show (a.withWorld w).readPtr (a.usrregs c) = a.readPtr (a.usrregs c)
  cases a.usrregs c <;> rfl

/-- **The loop of a store** is a run of accesses. -/
lemma storeLoop_eq {value : ArmState σ → Nat → UInt32} (hv : Steady value) (cs : List Nat)
    (addr : UInt32) (a : ArmState σ) :
    storeLoop bus value cs addr a =
      let e := storeWords bus a.memmode (cs.map (value a)) addr a.world
      (e.aborted, e.addr, a.withWorld e.world) := by
  induction cs generalizing addr a with
  | nil => rfl
  | cons c cs ih =>
    simp only [storeLoop, List.map_cons, storeWords]
    set w := bus.write32 a.memmode addr (value a c) a.world with hw
    have hmem : memWrite32 bus a addr (value a c) = a.withWorld w := rfl
    rw [hmem, withWorld_aborted]
    by_cases hab : w.aborted = true
    · simp [hab]
    · simp only [hab, Bool.false_eq_true, if_false]
      rw [ih, withWorld_world, withWorld_memmode]
      have hmap : cs.map (value (a.withWorld w)) = cs.map (value a) :=
        List.map_congr_left fun c _ => hv a w c
      rw [hmap]
      rfl

lemma storeWords_append (priv : Bool) (vs us : List UInt32) (addr : UInt32) (w : World σ) :
    storeWords bus priv (vs ++ us) addr w =
      let e := storeWords bus priv vs addr w
      if e.aborted then e else storeWords bus priv us e.addr e.world := by
  induction vs generalizing addr w with
  | nil => rfl
  | cons v vs ih =>
    simp only [List.cons_append, storeWords]
    by_cases hab : (bus.write32 priv addr v w).aborted = true
    · simp [hab]
    · simp only [hab, Bool.false_eq_true, if_false]
      exact ih _ _

/-! ## Loads -/

def loadWords (priv : Bool) : List Nat → UInt32 → World σ → List (Nat × UInt32) × Ended σ
  | [], addr, w => ([], ⟨false, addr, w⟩)
  | c :: cs, addr, w =>
    let r := bus.read32 priv addr w
    if r.2.aborted then ([], ⟨true, addr, r.2⟩)
    else
      let t := loadWords priv cs (addr + 4) r.2
      ((c, r.1) :: t.1, t.2)

def putAll (put : ArmState σ → Nat → UInt32 → ArmState σ) (a : ArmState σ)
    (ws : List (Nat × UInt32)) : ArmState σ :=
  ws.foldl (fun a p => put a p.1 p.2) a

/-- The put neither looks at the world nor changes it. -/
structure Placing (put : ArmState σ → Nat → UInt32 → ArmState σ) : Prop where
  withWorld : ∀ a w c v, put (a.withWorld w) c v = (put a c v).withWorld w
  world : ∀ a c v, (put a c v).world = a.world
  memmode : ∀ a c v, (put a c v).memmode = a.memmode

lemma placing_setReg : Placing (ArmState.setReg : ArmState σ → Nat → UInt32 → ArmState σ) where
  withWorld _ _ _ _ := rfl
  world _ _ _ := rfl
  memmode _ _ _ := rfl

lemma placing_putUser : Placing (putUser : ArmState σ → Nat → UInt32 → ArmState σ) where
  withWorld a w c v := by
    show (a.withWorld w).writePtr v (a.usrregs c) = (a.writePtr v (a.usrregs c)).withWorld w
    cases a.usrregs c <;> rfl
  world a c v := by
    show (a.writePtr v (a.usrregs c)).world = a.world
    cases a.usrregs c <;> rfl
  memmode a c v := by
    show (a.writePtr v (a.usrregs c)).memmode = a.memmode
    cases a.usrregs c <;> rfl

lemma Placing.putAll_withWorld {put : ArmState σ → Nat → UInt32 → ArmState σ} (hp : Placing put)
    (a : ArmState σ) (w : World σ) (ws : List (Nat × UInt32)) :
    putAll put (a.withWorld w) ws = (putAll put a ws).withWorld w := by
  induction ws generalizing a with
  | nil => rfl
  | cons p ws ih =>
    simp only [putAll, List.foldl_cons] at ih ⊢
    rw [hp.withWorld, ih]

/-- **The loop of a load** is a run of accesses, and the words it fetched. -/
lemma loadLoop_eq {put : ArmState σ → Nat → UInt32 → ArmState σ} (hp : Placing put) (cs : List Nat)
    (addr : UInt32) (a : ArmState σ) :
    loadLoop bus put cs addr a =
      let t := loadWords bus a.memmode cs addr a.world
      (t.2.aborted, t.2.addr, (putAll put a t.1).withWorld t.2.world) := by
  induction cs generalizing addr a with
  | nil => rfl
  | cons c cs ih =>
    simp only [loadLoop, loadWords]
    set r := bus.read32 a.memmode addr a.world with hr
    rw [memRead32_eq, ← hr, withWorld_aborted]
    by_cases hab : r.2.aborted = true
    · simp [hab, putAll]
    · simp only [hab, Bool.false_eq_true, if_false]
      rw [ih, hp.world, hp.memmode, withWorld_world, withWorld_memmode, hp.withWorld]
      dsimp only
      rw [hp.putAll_withWorld]
      rfl

lemma mem_of_mem_loadWords {priv : Bool} {cs : List Nat} {addr : UInt32} {w : World σ}
    {p : Nat × UInt32} (h : p ∈ (loadWords bus priv cs addr w).1) : p.1 ∈ cs := by
  induction cs generalizing addr w with
  | nil => simp [loadWords] at h
  | cons c cs ih =>
    simp only [loadWords] at h
    split at h
    · simp at h
    · rcases List.mem_cons.mp h with rfl | h
      · exact List.mem_cons_self
      · exact List.mem_cons_of_mem _ (ih h)

lemma field_lt (op n : UInt32) : ((op >>> n) &&& 0xf).toNat < 16 := by
  rw [UInt32.toNat_and]
  exact Nat.and_lt_two_pow _ (n := 4) (by decide)

lemma rd_lt (op : UInt32) : rd op < 16 := field_lt op 12

lemma rn_lt (op : UInt32) : rn op < 16 := field_lt op 16

lemma mem_regList {op : UInt32} {c : Nat} (h : c ∈ regList op) : c < 15 := by
  rw [regList, List.mem_filter, List.mem_range] at h
  exact h.1

section Whole

variable (op : UInt32) (a : ArmState σ)

def withBase (writeback : UInt32) : ArmState σ :=
  if writesBack op then a.setReg (rn op) writeback else a

@[simp] lemma withBase_world (writeback : UInt32) : (withBase op a writeback).world = a.world := by
  unfold withBase
  split <;> rfl

@[simp] lemma withBase_memmode (writeback : UInt32) :
    (withBase op a writeback).memmode = a.memmode := by
  unfold withBase
  split <;> rfl

def fetched (address : UInt32) : List (Nat × UInt32) × Ended σ :=
  loadWords bus a.memmode (regList op) (address &&& ~~~3) a.world

/-- **A load of several registers**: the base, the words, and the rest of the instruction. -/
lemma loadMultiple_eq {put : ArmState σ → Nat → UInt32 → ArmState σ} (hp : Placing put)
    (address writeback : UInt32) (done : UInt32 → ArmState σ → Bool × ArmState σ) :
    loadMultiple bus op a put address writeback done =
      let t := fetched bus op a address
      let loaded := (putAll put (withBase op a writeback) t.1).withWorld t.2.world
      if t.2.aborted then loadAborted op loaded (a.reg (rn op)) writeback
      else
        let d := done t.2.addr loaded
        if d.1 then loadAborted op d.2 (a.reg (rn op)) writeback else d.2 := by
  have h : loadMultiple bus op a put address writeback done =
      let r := loadLoop bus put (regList op) (address &&& ~~~3) (withBase op a writeback)
      if r.1 then loadAborted op r.2.2 (a.reg (rn op)) writeback
      else
        let d := done r.2.1 r.2.2
        if d.1 then loadAborted op d.2 (a.reg (rn op)) writeback else d.2 := rfl
  rw [h, loadLoop_eq bus hp, withBase_world, withBase_memmode]
  rfl

lemma Placing.putAll_memmode {put : ArmState σ → Nat → UInt32 → ArmState σ} (hp : Placing put)
    (a : ArmState σ) (ws : List (Nat × UInt32)) : (putAll put a ws).memmode = a.memmode := by
  induction ws generalizing a with
  | nil => rfl
  | cons p ws ih => exact (ih (put a p.1 p.2)).trans (hp.memmode a p.1 p.2)

def loaded (put : ArmState σ → Nat → UInt32 → ArmState σ) (address writeback : UInt32) : ArmState σ :=
  (putAll put (withBase op a writeback) (fetched bus op a address).1).withWorld
    (fetched bus op a address).2.world

lemma loaded_memmode {put : ArmState σ → Nat → UInt32 → ArmState σ} (hp : Placing put)
    (address writeback : UInt32) : (loaded bus op a put address writeback).memmode = a.memmode := by
  rw [loaded, withWorld_memmode, hp.putAll_memmode, withBase_memmode]

def fetchedR15 (address : UInt32) : UInt32 × World σ :=
  bus.read32 a.memmode (fetched bus op a address).2.addr (fetched bus op a address).2.world

section Outcomes

variable {bus op a} {put : ArmState σ → Nat → UInt32 → ArmState σ} (hp : Placing put)
  {address writeback : UInt32} {done : UInt32 → ArmState σ → Bool × ArmState σ}
  {place : ArmState σ → UInt32 → ArmState σ}
include hp

lemma loadMultiple_aborted (hab : (fetched bus op a address).2.aborted = true) :
    loadMultiple bus op a put address writeback done =
      loadAborted op (loaded bus op a put address writeback) (a.reg (rn op)) writeback := by
  rw [loadMultiple_eq bus op a hp]
  exact if_pos hab

lemma loadMultiple_done (hab : (fetched bus op a address).2.aborted = false) :
    loadMultiple bus op a put address writeback (fun _ a => (false, a)) =
      loaded bus op a put address writeback := by
  rw [loadMultiple_eq bus op a hp]
  simp only [hab, Bool.false_eq_true, if_false]
  rfl

lemma loadR15_loaded : loadR15 bus place (fetched bus op a address).2.addr
    (loaded bus op a put address writeback) =
      let r := fetchedR15 bus op a address
      if r.2.aborted then (true, (loaded bus op a put address writeback).withWorld r.2)
      else (false, place ((loaded bus op a put address writeback).withWorld r.2) r.1) := by
  have hread : memRead32 bus (loaded bus op a put address writeback)
      (fetched bus op a address).2.addr = ((fetchedR15 bus op a address).1,
        (loaded bus op a put address writeback).withWorld (fetchedR15 bus op a address).2) := by
    rw [memRead32_eq, loaded_memmode bus op a hp]
    rfl
  rw [loadR15, hread]
  rfl

lemma loadMultiple_r15_aborted (hab : (fetched bus op a address).2.aborted = false)
    (hab' : (fetchedR15 bus op a address).2.aborted = true) :
    loadMultiple bus op a put address writeback (loadR15 bus place) =
      loadAborted op ((loaded bus op a put address writeback).withWorld
        (fetchedR15 bus op a address).2) (a.reg (rn op)) writeback := by
  have hr15 : loadR15 bus place (fetched bus op a address).2.addr
      (loaded bus op a put address writeback) = (true, _) :=
    (loadR15_loaded hp).trans (if_pos hab')
  rw [loaded] at hr15
  rw [loadMultiple_eq bus op a hp]
  simp only [hab, Bool.false_eq_true, if_false, hr15, if_true]
  rfl

lemma loadMultiple_r15 (hab : (fetched bus op a address).2.aborted = false)
    (hab' : (fetchedR15 bus op a address).2.aborted = false) :
    loadMultiple bus op a put address writeback (loadR15 bus place) =
      place ((loaded bus op a put address writeback).withWorld (fetchedR15 bus op a address).2)
        (fetchedR15 bus op a address).1 := by
  have hr15 : loadR15 bus place (fetched bus op a address).2.addr
      (loaded bus op a put address writeback) = (false, _) :=
    (loadR15_loaded hp).trans (if_neg (by simp [hab']))
  rw [loaded] at hr15
  rw [loadMultiple_eq bus op a hp]
  simp only [hab, Bool.false_eq_true, if_false, hr15]
  rfl

end Outcomes

/-! ## What a store leaves of the registers -/

/-- At most the base register and the memory have changed. -/
def BaseOnly (t : ArmState σ) : Prop :=
  ∃ w, t = a.withWorld w ∨ (rn op ≠ 15 ∧ ∃ v, t = (a.setReg (rn op) v).withWorld w)

variable {op a}

lemma BaseOnly.withWorld (w : World σ) : BaseOnly op a (a.withWorld w) := ⟨w, Or.inl rfl⟩

lemma BaseOnly.trans {t u : ArmState σ} (h : BaseOnly op a t) (h' : BaseOnly op t u) :
    BaseOnly op a u := by
  obtain ⟨w, rfl | ⟨hn, v, rfl⟩⟩ := h
  · obtain ⟨w', rfl | ⟨hn, v, rfl⟩⟩ := h'
    · exact ⟨w', Or.inl rfl⟩
    · exact ⟨w', Or.inr ⟨hn, v, rfl⟩⟩
  · obtain ⟨w', rfl | ⟨_, v', rfl⟩⟩ := h'
    · exact ⟨w', Or.inr ⟨hn, v, rfl⟩⟩
    · refine ⟨w', Or.inr ⟨hn, v', ?_⟩⟩
      simp only [ArmState.setReg, ArmState.withWorld, Function.update_idem]

lemma BaseOnly.memWrite32 (addr data : UInt32) : BaseOnly op a (memWrite32 bus a addr data) :=
  BaseOnly.withWorld _

lemma BaseOnly.writeback (b : Bool) (v : UInt32) :
    BaseOnly op a (if b && writesBack op then a.setReg (rn op) v else a) := by
  split
  · rename_i h
    simp only [writesBack, Bool.and_eq_true, bne_iff_ne, ne_eq] at h
    exact ⟨a.world, Or.inr ⟨h.2.2, v, rfl⟩⟩
  · exact BaseOnly.withWorld a.world

/-- **A store leaves every register but its base.** -/
lemma BaseOnly.storeMultiple {value : ArmState σ → Nat → UInt32} (hv : Steady value)
    (address writeback : UInt32) : BaseOnly op a (storeMultiple bus op a value address writeback) := by
  have hfirst : ∀ addr, BaseOnly op a (storeFirst bus op a value addr writeback) := by
    intro addr
    unfold storeFirst
    cases regList op with
    | nil => exact BaseOnly.writeback _ _
    | cons c _ => exact (BaseOnly.memWrite32 bus _ _).trans (BaseOnly.writeback _ _)
  have hrest : ∀ (t : ArmState σ) base addr,
      BaseOnly op t (storeRest bus op t value base writeback addr) := by
    intro t base addr
    unfold storeRest
    rw [storeLoop_eq bus hv]
    dsimp only
    split
    · exact (BaseOnly.withWorld _).trans (BaseOnly.writeback _ _)
    · split
      · have hlast : ∀ w addr data, BaseOnly op t (Arm.memWrite32 bus (t.withWorld w) addr data) :=
          fun w addr data => (BaseOnly.withWorld w).trans (BaseOnly.memWrite32 bus addr data)
        split
        · exact (hlast _ _ _).trans (BaseOnly.writeback _ _)
        · exact (hlast _ _ _).trans (BaseOnly.writeback _ _)
      · exact (BaseOnly.withWorld _).trans (BaseOnly.writeback _ _)
  unfold Arm.storeMultiple
  dsimp only
  split
  · exact (hfirst _).trans (BaseOnly.writeback _ _)
  · exact (hfirst _).trans (hrest _ _ _)

variable (op a)

def stmWords (value : ArmState σ → Nat → UInt32) : List UInt32 :=
  (regList op).map (value a) ++ if listsR15 op then [a.reg 15 + a.r15Diff] else []

lemma storeAborted_self (w : World σ) :
    storeAborted op (a.withWorld w) (a.reg (rn op)) = a.withWorld w := by
  unfold storeAborted
  split
  · rw [withWorld_setReg, ArmState.setReg, Function.update_eq_self]
  · rfl

lemma storeRest_eq {value : ArmState σ → Nat → UInt32} (hv : Steady value)
    (hstm : a.stmWritebackAtEnd = true) (w : World σ) (writeback addr : UInt32) :
    storeRest bus op (a.withWorld w) value (a.reg (rn op)) writeback addr =
      let e := storeWords bus a.memmode ((regList op).tail.map (value a) ++
        if listsR15 op then [a.reg 15 + a.r15Diff] else []) addr w
      if e.aborted then a.withWorld e.world else (withBase op a writeback).withWorld e.world := by
  have hdone : ∀ w', storeDone op (a.withWorld w') writeback =
      (withBase op a writeback).withWorld w' := by
    intro w'
    have hstm' : (a.withWorld w').stmWritebackAtEnd = true := hstm
    rw [storeDone, hstm', Bool.true_and, withBase]
    split <;> rfl
  have hmap : ((regList op).tail.map (value (a.withWorld w))) = (regList op).tail.map (value a) :=
    List.map_congr_left fun c _ => hv a w c
  rw [storeRest, storeLoop_eq bus hv, storeWords_append, hmap, withWorld_world, withWorld_memmode]
  set e := storeWords bus a.memmode ((regList op).tail.map (value a)) addr w with he
  dsimp only
  rw [withWorld_withWorld, storeAborted_self, hdone]
  by_cases hab : e.aborted = true
  · simp [hab]
  · cases hr15 : listsR15 op with
    | false => simp [hab, storeWords]
    | true =>
      simp only [hab, Bool.false_eq_true, if_false, if_true, storeWords]
      set w' := bus.write32 a.memmode e.addr (a.reg 15 + a.r15Diff) e.world with hw'
      have hmem : memWrite32 bus (a.withWorld e.world) e.addr
          ((a.withWorld e.world).reg 15 + (a.withWorld e.world).r15Diff) = a.withWorld w' := rfl
      rw [hmem, withWorld_aborted, storeAborted_self, hdone]
      by_cases hab' : w'.aborted = true <;> simp [hab']

/-- **A store of several registers** that writes its base back last: a run of accesses, and then the
base unless one has aborted. -/
lemma storeMultiple_eq {value : ArmState σ → Nat → UInt32} (hv : Steady value)
    (hstm : a.stmWritebackAtEnd = true) (hev : a.aborted = false) (address writeback : UInt32) :
    storeMultiple bus op a value address writeback =
      let e := storeWords bus a.memmode (stmWords op a value) (address &&& ~~~3) a.world
      if e.aborted then a.withWorld e.world else (withBase op a writeback).withWorld e.world := by
  have hrest := storeRest_eq bus op a hv hstm
  unfold storeMultiple storeFirst stmWords
  cases hl : regList op with
  | nil =>
    rw [hl] at hrest
    simp only [hstm, Bool.not_true, Bool.false_and, Bool.false_eq_true, if_false, hev]
    exact hrest a.world writeback (address &&& ~~~3)
  | cons c cs =>
    rw [hl] at hrest
    set w := bus.write32 a.memmode (address &&& ~~~3) (value a c) a.world with hw
    have hmem : memWrite32 bus a (address &&& ~~~3) (value a c) = a.withWorld w := rfl
    have hstm' : (a.withWorld w).stmWritebackAtEnd = true := hstm
    simp only [hmem, hstm', Bool.not_true, Bool.false_and, Bool.false_eq_true, if_false,
      withWorld_aborted, List.map_cons, List.cons_append, storeWords, ← hw]
    by_cases hab : w.aborted = true
    · simp only [hab, if_true, storeAborted_self]
    · simp only [hab, Bool.false_eq_true, if_false]
      exact hrest w writeback _

end Whole

end RpcEmu.Arm
