import RpcEmu.Arm.Faults

/-!
# Transfers that abort and are made again

A page that is not there makes a transfer abort; the guest's handler brings it in and goes back to the
instruction.  On the processors that restore their base (SA110, ARM810) that has to come to the same as
if the page had been there.

* **Loads of several registers** have changed some of the registers, which the second time loads again;
  the base among them is put back.
* **Every transfer**: what an aborted one leaves (`Restarts`), a family at a time, and from it that of
  the opcode.
-/

namespace RpcEmu.Arm

open Overlay Pages Masks

/-! ## Cores that agree but for some registers -/

/-- `t` is `a`, but for the registers at some places. -/
structure AgreeOff (ps : List RegPtr) (a t : ArmState Ram) : Prop where
  rest : t = { a with reg := t.reg, userReg := t.userReg }
  reg : ∀ r, RegPtr.reg r ∉ ps → t.reg r = a.reg r
  user : ∀ r, RegPtr.user r ∉ ps → t.userReg r = a.userReg r

namespace AgreeOff

variable {ps qs : List RegPtr} {a t : ArmState Ram}

lemma refl (ps : List RegPtr) (a : ArmState Ram) : AgreeOff ps a a :=
  ⟨rfl, fun _ _ => rfl, fun _ _ => rfl⟩

lemma mono (h : AgreeOff ps a t) (hsub : ∀ p ∈ ps, p ∈ qs) : AgreeOff qs a t :=
  ⟨h.rest, fun r hr => h.reg r fun hp => hr (hsub _ hp), fun r hr => h.user r fun hp => hr (hsub _ hp)⟩

lemma eq (h : AgreeOff [] a t) : t = a := by
  have hreg : t.reg = a.reg := funext fun r => h.reg r List.not_mem_nil
  have huser : t.userReg = a.userReg := funext fun r => h.user r List.not_mem_nil
  rw [h.rest, hreg, huser]

lemma trans {u : ArmState Ram} (h : AgreeOff ps a t) (h' : AgreeOff ps t u) : AgreeOff ps a u where
  rest := by rw [h'.rest, h.rest]
  reg r hr := (h'.reg r hr).trans (h.reg r hr)
  user r hr := (h'.user r hr).trans (h.user r hr)

lemma memmode (h : AgreeOff ps a t) : t.memmode = a.memmode := by rw [h.rest]

lemma usrregs (h : AgreeOff ps a t) : t.usrregs = a.usrregs := by rw [h.rest]

lemma withWorld (h : AgreeOff ps a t) (w : World Ram) :
    AgreeOff ps (a.withWorld w) (t.withWorld w) where
  rest := by
    have hrest := congrArg (fun s => ArmState.withWorld s w) h.rest
    exact hrest
  reg := h.reg
  user := h.user

lemma writePtr (a : ArmState Ram) (v : UInt32) (p : RegPtr) : AgreeOff [p] a (a.writePtr v p) := by
  cases p with
  | reg c =>
    refine ⟨rfl, fun r hr => ?_, fun _ _ => rfl⟩
    exact Function.update_of_ne (fun h => hr (by simp [h])) _ _
  | user c =>
    refine ⟨rfl, fun _ _ => rfl, fun r hr => ?_⟩
    exact Function.update_of_ne (fun h => hr (by simp [h])) _ _

lemma writePtr_both {p : RegPtr} (h : AgreeOff (p :: ps) a t) (v : UInt32) :
    AgreeOff ps (a.writePtr v p) (t.writePtr v p) := by
  cases p with
  | reg c =>
    refine ⟨?_, fun r hr => ?_, fun r hr => h.user r (by simp [hr])⟩
    · have hrest := congrArg (fun s => ArmState.writePtr s v (.reg c)) h.rest
      exact hrest
    · by_cases hrc : r = c
      · subst hrc
        simp [ArmState.writePtr, ArmState.setReg]
      · have hreg := h.reg r (by simp [hrc, hr])
        simp [ArmState.writePtr, ArmState.setReg, hrc, hreg]
  | user c =>
    refine ⟨?_, fun r hr => h.reg r (by simp [hr]), fun r hr => ?_⟩
    · have hrest := congrArg (fun s => ArmState.writePtr s v (.user c)) h.rest
      exact hrest
    · by_cases hrc : r = c
      · subst hrc
        simp [ArmState.writePtr]
      · have huser := h.user r (by simp [hrc, hr])
        simp [ArmState.writePtr, hrc, huser]

lemma restore {r : Nat} (h : AgreeOff (.reg r :: ps) a t) : AgreeOff ps a (t.setReg r (a.reg r)) := by
  have hself : a.writePtr (a.reg r) (.reg r) = a := by
    simp only [ArmState.writePtr, ArmState.setReg, Function.update_eq_self]
  have hboth := h.writePtr_both (a.reg r)
  rwa [hself] at hboth

end AgreeOff

/-! ## LDM -/

/-- A destination that is a place for each register: the register itself, or where `usrregs` points. -/
def PutsAt (put : ArmState Ram → Nat → UInt32 → ArmState Ram) (place : ArmState Ram → Nat → RegPtr) :
    Prop :=
  (∀ a c v, put a c v = a.writePtr v (place a c)) ∧
    ∀ a t ps, AgreeOff ps a t → place t = place a

lemma putsAt_setReg : PutsAt ArmState.setReg (fun _ => .reg) := ⟨fun _ _ _ => rfl, fun _ _ _ _ => rfl⟩

lemma putsAt_putUser : PutsAt putUser (fun a => a.usrregs) :=
  ⟨fun _ _ _ => rfl, fun _ _ _ h => h.usrregs⟩

section Words

variable {put : ArmState Ram → Nat → UInt32 → ArmState Ram} {place : ArmState Ram → Nat → RegPtr}
  (hput : PutsAt put place)
include hput

lemma agreeOff_putAll (a : ArmState Ram) (ws : List (Nat × UInt32)) :
    AgreeOff (ws.map fun p => place a p.1) a (putAll put a ws) := by
  induction ws generalizing a with
  | nil => exact AgreeOff.refl _ a
  | cons p ws ih =>
    have hone := AgreeOff.writePtr a p.2 (place a p.1)
    have hmore := ih (put a p.1 p.2)
    rw [hput.1, hput.2 _ _ _ hone] at hmore
    have hfirst : AgreeOff ((p :: ws).map fun q => place a q.1) a (a.writePtr p.2 (place a p.1)) :=
      hone.mono (by simp)
    have hall := hfirst.trans (hmore.mono fun q hq => List.mem_cons_of_mem _ hq)
    rw [← hput.1] at hall
    exact hall

lemma putAll_agree {a t : ArmState Ram} {ws : List (Nat × UInt32)}
    (h : AgreeOff (ws.map fun p => place a p.1) a t) : putAll put t ws = putAll put a ws := by
  induction ws generalizing a t with
  | nil => exact h.eq
  | cons p ws ih =>
    have hboth := AgreeOff.writePtr_both h p.2
    have hplace : place (a.writePtr p.2 (place a p.1)) = place a :=
      hput.2 _ _ _ (AgreeOff.writePtr a p.2 _)
    have hstep := ih (a := a.writePtr p.2 (place a p.1)) (by rw [hplace]; exact hboth)
    have ht : put t p.1 p.2 = t.writePtr p.2 (place a p.1) := by rw [hput.1, hput.2 _ _ _ h]
    have ha : put a p.1 p.2 = a.writePtr p.2 (place a p.1) := hput.1 _ _ _
    show putAll put (put t p.1 p.2) ws = putAll put (put a p.1 p.2) ws
    rw [ht, ha, hstep]

end Words

lemma loadWords_faulty (aborts : Oracle) (junk : UInt32) (priv : Bool) (cs : List Nat)
    (addr : UInt32) {w : World Ram} (hw : w.aborted = false) :
    (loadWords (faultyBus aborts junk) priv cs addr w).2.world =
      if (loadWords (faultyBus aborts junk) priv cs addr w).2.aborted then w.fault else w := by
  induction cs generalizing addr with
  | nil => rfl
  | cons c cs ih =>
    by_cases hab : aborts priv false addr = true
    · have hread : (faultyBus aborts junk).read32 priv addr w = (junk, w.fault) := if_pos hab
      simp only [loadWords, hread, fault_aborted, if_true]
    · have hread : (faultyBus aborts junk).read32 priv addr w = (readWord w.mem addr, w) :=
        if_neg hab
      simp only [loadWords, hread, hw, Bool.false_eq_true, if_false]
      exact ih _

lemma loadWords_sound (priv : Bool) (cs : List Nat) (addr : UInt32) {w : World Ram}
    (hw : w.aborted = false) : (loadWords soundBus priv cs addr w).2.aborted = false ∧
      (loadWords soundBus priv cs addr w).1.map Prod.fst = cs := by
  induction cs generalizing addr with
  | nil => exact ⟨rfl, rfl⟩
  | cons c cs ih =>
    have hread : soundBus.read32 priv addr w = (readWord w.mem addr, w) := rfl
    obtain ⟨hab, hmap⟩ := ih (addr + 4)
    simp only [loadWords, hread, hw, Bool.false_eq_true, if_false, List.map_cons]
    exact ⟨hab, by rw [hmap]⟩

section LoadMultiple

variable {op : UInt32} {a : ArmState Ram} {put : ArmState Ram → Nat → UInt32 → ArmState Ram}
  {place : ArmState Ram → Nat → RegPtr} (hput : PutsAt put place) (hp : Placing put)
  (hev : a.aborted = false) (address writeback : UInt32)

lemma agreeOff_withBase (op : UInt32) (a : ArmState Ram) (writeback : UInt32) :
    AgreeOff [.reg (rn op)] a (withBase op a writeback) := by
  unfold withBase
  split
  · exact AgreeOff.writePtr a writeback (.reg (rn op))
  · exact AgreeOff.refl _ a

lemma loadAborted_eq {t : ArmState Ram} (habr : t.abortBaseRestored = true) (base : UInt32) :
    loadAborted op t base writeback = t.setReg (rn op) base := by
  simp [loadAborted, habr]

include hput

lemma agreeOff_aborted (ws : List (Nat × UInt32)) :
    AgreeOff (ws.map fun p => place a p.1) a
      ((putAll put (withBase op a writeback) ws).setReg (rn op) (a.reg (rn op))) := by
  have hbase := agreeOff_withBase op a writeback
  have hwords := agreeOff_putAll hput (withBase op a writeback) ws
  rw [hput.2 _ _ _ hbase] at hwords
  refine AgreeOff.restore ?_
  exact (hbase.mono (by simp)).trans (hwords.mono fun p hp => List.mem_cons_of_mem _ hp)

include hp hev

/-- **LDM, the second time**: from a core that agrees with the first but for registers of the list. -/
lemma loadMultiple_agree {t : ArmState Ram} {ps : List RegPtr} (h : AgreeOff ps a t)
    (hsub : ∀ p ∈ ps, p ∈ (regList op).map (place a)) (hbase : t.reg (rn op) = a.reg (rn op))
    (hworld : t.world = a.world) (done : UInt32 → ArmState Ram → Bool × ArmState Ram) :
    loadMultiple soundBus op t put address writeback done =
      loadMultiple soundBus op a put address writeback done := by
  have hfetched : fetched soundBus op t address = fetched soundBus op a address := by
    rw [fetched, fetched, h.memmode, hworld]
  obtain ⟨_, hmap⟩ := loadWords_sound a.memmode (regList op) (address &&& ~~~3) (w := a.world) hev
  have hwith : AgreeOff ps (withBase op a writeback) (withBase op t writeback) := by
    unfold withBase
    split
    · exact AgreeOff.writePtr_both (p := .reg (rn op)) (h.mono fun p hp => List.mem_cons_of_mem _ hp)
        writeback
    · exact h
  have hplace : place (withBase op a writeback) = place a :=
    hput.2 _ _ _ (agreeOff_withBase op a writeback)
  have hputs : putAll put (withBase op t writeback) (fetched soundBus op a address).1 =
      putAll put (withBase op a writeback) (fetched soundBus op a address).1 := by
    refine putAll_agree hput (hwith.mono fun p hp => ?_)
    have hmem := hsub p hp
    rw [← hmap, List.map_map] at hmem
    rw [hplace]
    exact hmem
  rw [loadMultiple_eq _ op t hp, loadMultiple_eq _ op a hp, hfetched, hbase]
  dsimp only
  rw [hputs]

end LoadMultiple

/-- Where a block load stands that was aborted after `ws`. -/
def PartlyLoaded (op : UInt32) (a : ArmState Ram) (put : ArmState Ram → Nat → UInt32 → ArmState Ram)
    (writeback : UInt32) (ws : List (Nat × UInt32)) (t : ArmState Ram) : Prop :=
  t = ((putAll put (withBase op a writeback) ws).setReg (rn op) (a.reg (rn op))).withWorld a.world.fault

section Aborted

variable {op : UInt32} {a : ArmState Ram} {put : ArmState Ram → Nat → UInt32 → ArmState Ram}
  {place : ArmState Ram → Nat → RegPtr} (hput : PutsAt put place) (hp : Placing put)
  (habr : a.abortBaseRestored = true) (hev : a.aborted = false) (aborts : Oracle) (junk : UInt32)
  (address writeback : UInt32)

include hput in
lemma putAll_abortBaseRestored (ws : List (Nat × UInt32)) :
    (putAll put (withBase op a writeback) ws).abortBaseRestored = a.abortBaseRestored := by
  rw [(agreeOff_putAll hput (withBase op a writeback) ws).rest,
    (agreeOff_withBase op a writeback).rest]

include hev in
lemma fetched_world (op : UInt32) : (fetched (faultyBus aborts junk) op a address).2.world =
    if (fetched (faultyBus aborts junk) op a address).2.aborted then a.world.fault else a.world :=
  loadWords_faulty aborts junk _ _ _ hev

include hput hp habr hev

lemma partlyLoaded_below (done : UInt32 → ArmState Ram → Bool × ArmState Ram)
    (hab : (fetched (faultyBus aborts junk) op a address).2.aborted = true) :
    PartlyLoaded op a put writeback (fetched (faultyBus aborts junk) op a address).1
      (loadMultiple (faultyBus aborts junk) op a put address writeback done) := by
  have hworld := fetched_world hev aborts junk address op
  rw [if_pos hab] at hworld
  have habr' : (loaded (faultyBus aborts junk) op a put address writeback).abortBaseRestored = true :=
    (putAll_abortBaseRestored hput writeback _).trans habr
  rw [PartlyLoaded, loadMultiple_aborted hp hab, loadAborted_eq writeback habr', loaded, hworld]
  rfl

lemma partlyLoaded_of_aborted (h : (loadMultiple (faultyBus aborts junk) op a put address writeback
      fun _ a => (false, a)).aborted = true) :
    PartlyLoaded op a put writeback (fetched (faultyBus aborts junk) op a address).1
      (loadMultiple (faultyBus aborts junk) op a put address writeback fun _ a => (false, a)) := by
  by_cases hab : (fetched (faultyBus aborts junk) op a address).2.aborted = true
  · exact partlyLoaded_below hput hp habr hev aborts junk address writeback _ hab
  · have hworld := fetched_world hev aborts junk address op
    rw [if_neg hab] at hworld
    rw [loadMultiple_done hp (by simpa using hab), loaded, withWorld_aborted, hworld] at h
    exact absurd (h.symm.trans hev) (by decide)

lemma partlyLoaded_of_aborted_r15 {dest : ArmState Ram → UInt32 → ArmState Ram}
    (hdest : ∀ t v, (dest t v).world = t.world)
    (h : (loadMultiple (faultyBus aborts junk) op a put address writeback
      (loadR15 (faultyBus aborts junk) dest)).aborted = true) :
    PartlyLoaded op a put writeback (fetched (faultyBus aborts junk) op a address).1
      (loadMultiple (faultyBus aborts junk) op a put address writeback
        (loadR15 (faultyBus aborts junk) dest)) := by
  by_cases hab : (fetched (faultyBus aborts junk) op a address).2.aborted = true
  · exact partlyLoaded_below hput hp habr hev aborts junk address writeback _ hab
  · have hworld := fetched_world hev aborts junk address op
    rw [if_neg hab] at hworld
    rw [Bool.not_eq_true] at hab
    have habr' : ∀ w, ((loaded (faultyBus aborts junk) op a put address writeback).withWorld
        w).abortBaseRestored = true := fun _ => (putAll_abortBaseRestored hput writeback _).trans habr
    by_cases hr15 : aborts a.memmode false (fetched (faultyBus aborts junk) op a address).2.addr = true
    · have hread : fetchedR15 (faultyBus aborts junk) op a address = (junk, a.world.fault) := by
        rw [fetchedR15, hworld]
        exact if_pos hr15
      rw [PartlyLoaded, loadMultiple_r15_aborted hp hab (by rw [hread]; exact fault_aborted _),
        loadAborted_eq writeback (habr' _), hread, loaded]
      rfl
    · have hread : (fetchedR15 (faultyBus aborts junk) op a address).2 = a.world := by
        have hsnd : ((faultyBus aborts junk).read32 a.memmode
            (fetched (faultyBus aborts junk) op a address).2.addr a.world) =
              (readWord a.world.mem (fetched (faultyBus aborts junk) op a address).2.addr, a.world) :=
          if_neg hr15
        rw [fetchedR15, hworld, hsnd]
      have hev' : (fetchedR15 (faultyBus aborts junk) op a address).2.aborted = false := by
        rw [hread]
        exact hev
      rw [loadMultiple_r15 hp hab hev', aborted_eq, hdest, withWorld_world, hread] at h
      exact absurd (h.symm.trans hev) (by decide)

omit hp habr in
lemma PartlyLoaded.resume {t : ArmState Ram} {ws : List (Nat × UInt32)}
    (h : PartlyLoaded op a put writeback ws t) :
    AgreeOff (ws.map fun p => place a p.1) a (resume t) ∧
      (Arm.resume t).reg (rn op) = a.reg (rn op) ∧ (Arm.resume t).world = a.world := by
  have hres : Arm.resume t = ((putAll put (withBase op a writeback) ws).setReg (rn op)
      (a.reg (rn op))).withWorld a.world := by
    rw [h]
    exact resume_fault hev _
  rw [hres]
  refine ⟨(agreeOff_aborted hput writeback ws).withWorld a.world, ?_, rfl⟩
  exact Function.update_self _ _ _

end Aborted

/-! ## Every transfer -/

def Case.isTransfer (op : UInt32) : Case → Bool
  | mrsCpsrSwp | mrsSpsrSwpb => isSwp op
  | strtReg | strt | ldrtReg | ldrt | strbtReg | strbt | ldrbtReg | ldrbt => true
  | strReg | str | ldrReg | ldr | strbReg | strb | ldrbReg | ldrb => true
  | stmd | stmi | stmds | stmis | ldmd | ldmi | ldmds | ldmis => true
  | _ => false

def isTransfer (op : UInt32) (a : ArmState Ram) : Bool :=
  a.archV4 && (isHalf op || isSigned op) || (switchCase (opIndex op)).isTransfer op

/-- The places of the registers an LDM from `address` has loaded. -/
def placesFrom (bus : Bus Ram) (op : UInt32) (a : ArmState Ram) (place : Nat → RegPtr)
    (address : UInt32) : List RegPtr :=
  (fetched bus op a address).1.map fun p => place p.1

/-- Where an LDM with `^` puts a register. -/
def placeS (op : UInt32) (a : ArmState Ram) : Nat → RegPtr := if listsR15 op then .reg else a.usrregs

def Case.loaded (bus : Bus Ram) (op : UInt32) (a : ArmState Ram) : Case → List RegPtr
  | ldmd => placesFrom bus op a .reg (downAddr op a)
  | ldmi => placesFrom bus op a .reg (upAddr op a)
  | ldmds => placesFrom bus op a (placeS op a) (downAddr op a)
  | ldmis => placesFrom bus op a (placeS op a) (upAddr op a)
  | _ => []

def alreadyLoaded (bus : Bus Ram) (op : UInt32) (a : ArmState Ram) : List RegPtr :=
  (switchCase (opIndex op)).loaded bus op a

/-- `downAddr`, in terms of the base. -/
def downFrom (op base : UInt32) : UInt32 :=
  if op &&& 0x1000000 = 0 then base - armLdmStmOffset op + 4 else base - armLdmStmOffset op

/-- `upAddr`, in terms of the base. -/
def upFrom (op base : UInt32) : UInt32 := if op &&& 0x1000000 ≠ 0 then base + 4 else base

/-- The base is what it was, and running again from here is running from the start. -/
structure Restarts (op : UInt32) (ps : List RegPtr) (a t : ArmState Ram)
    (again : ArmState Ram → ArmState Ram) : Prop where
  base : t.reg (rn op) = a.reg (rn op)
  agree : AgreeOff ps a (t.withWorld a.world)
  again : again (resume t) = again a

namespace Restarts

variable {op : UInt32} {a : ArmState Ram} (hev : a.aborted = false)

include hev

lemma of_fault {t : ArmState Ram} (h : t = a.withWorld a.world.fault) (ps : List RegPtr)
    (again : ArmState Ram → ArmState Ram) : Restarts op ps a t again := by
  subst h
  refine ⟨rfl, AgreeOff.refl ps a, ?_⟩
  exact congrArg again (resume_fault hev a)

lemma strh (aborts : Oracle) (junk : UInt32)
    (h : (armStrh (faultyBus aborts junk) op a).aborted = true) (ps : List RegPtr) :
    Restarts op ps a (armStrh (faultyBus aborts junk) op a) (armStrh soundBus op) := by
  obtain ⟨w', ht, hpart⟩ := armStrh_aborted hev aborts junk h
  obtain ⟨w, hres, hw, hpatch⟩ := patchAll_resume hev hpart
  rw [ht]
  refine ⟨rfl, AgreeOff.refl ps a, ?_⟩
  rw [hres, armStrh_sound hev, armStrh_sound (a := a.withWorld w) hw]
  show writeHalfBase op (a.withWorld (w.patchAll (halfPatches op a))) (halfAddr op a)
    (halfOffset op a) = _
  rw [hpatch]

lemma stm (hstm : a.stmWritebackAtEnd = true) {value : ArmState Ram → Nat → UInt32}
    (hv : Steady value) (aborts : Oracle) (junk : UInt32) (address writeback : UInt32 → UInt32)
    (h : (storeMultiple (faultyBus aborts junk) op a value (address (a.reg (rn op)))
      (writeback (a.reg (rn op)))).aborted = true) :
    Restarts op [] a (storeMultiple (faultyBus aborts junk) op a value (address (a.reg (rn op)))
      (writeback (a.reg (rn op)))) (fun t => storeMultiple soundBus op t value
        (address (t.reg (rn op))) (writeback (t.reg (rn op)))) := by
  have hagain := storeMultiple_restarts hv hstm hev _ _ aborts junk h
  obtain ⟨w', ht, -⟩ := storeMultiple_aborted hv hstm hev _ _ aborts junk h
  rw [ht] at hagain ⊢
  exact ⟨rfl, AgreeOff.refl _ a, hagain⟩

lemma ldm {put : ArmState Ram → Nat → UInt32 → ArmState Ram} {place : ArmState Ram → Nat → RegPtr}
    (hput : PutsAt put place) (hp : Placing put) {t : ArmState Ram} {bus : Bus Ram} {addr wb : UInt32}
    (h : PartlyLoaded op a put wb (fetched bus op a addr).1 t) (address writeback : UInt32 → UInt32)
    (done : UInt32 → ArmState Ram → Bool × ArmState Ram) :
    Restarts op (placesFrom bus op a (place a) addr) a t (fun s => loadMultiple soundBus op s put
      (address (s.reg (rn op))) (writeback (s.reg (rn op))) done) := by
  obtain ⟨hagree, hbase, hworld⟩ := h.resume hput hev
  have hself : t.withWorld a.world = resume t := by rw [← hworld]; rfl
  have hsub : ∀ p ∈ placesFrom bus op a (place a) addr, p ∈ (regList op).map (place a) := by
    intro p hmem
    obtain ⟨e, he, rfl⟩ := List.mem_map.mp hmem
    exact List.mem_map_of_mem (mem_of_mem_loadWords bus he)
  refine ⟨hbase, ?_, ?_⟩
  · rw [hself]
    exact hagree
  · show loadMultiple soundBus op (resume t) put (address ((resume t).reg (rn op)))
      (writeback ((resume t).reg (rn op))) done = _
    rw [hbase]
    exact loadMultiple_agree hput hp hev _ _ hagree hsub hbase hworld done

omit hev in
lemma congr {ps : List RegPtr} {t : ArmState Ram} {again again' : ArmState Ram → ArmState Ram}
    (h : Restarts op ps a t again) (heq : ∀ s : ArmState Ram, s.archV4 = a.archV4 → again' s = again s) :
    Restarts op ps a t again' := by
  have hkind : (resume t).archV4 = a.archV4 := by
    show (t.withWorld a.world).archV4 = a.archV4
    rw [h.agree.rest]
  refine ⟨h.base, h.agree, ?_⟩
  rw [heq _ hkind, heq a rfl]
  exact h.again

end Restarts

section Opcode

variable {op : UInt32} {a : ArmState Ram} (habr : a.abortBaseRestored = true)
  (hstm : a.stmWritebackAtEnd = true) (hev : a.aborted = false) (aborts : Oracle) (junk : UInt32)
  (address writeback : UInt32 → UInt32)

include habr hev in
lemma armLoadMultiple_restarts (h : (armLoadMultiple (faultyBus aborts junk) op a
      (address (a.reg (rn op))) (writeback (a.reg (rn op)))).aborted = true) :
    Restarts op (placesFrom (faultyBus aborts junk) op a .reg (address (a.reg (rn op)))) a
      (armLoadMultiple (faultyBus aborts junk) op a (address (a.reg (rn op)))
        (writeback (a.reg (rn op))))
      fun s => armLoadMultiple soundBus op s (address (s.reg (rn op))) (writeback (s.reg (rn op))) := by
  unfold armLoadMultiple at h ⊢
  cases hr15 : listsR15 op with
  | false =>
    simp only [hr15, Bool.false_eq_true, if_false] at h ⊢
    exact Restarts.ldm hev putsAt_setReg placing_setReg
      (partlyLoaded_of_aborted putsAt_setReg placing_setReg habr hev aborts junk _ _ h) _ _ _
  | true =>
    simp only [hr15, if_true] at h ⊢
    have hdest : ∀ (t : ArmState Ram) v, (branchTo t v).world = t.world := fun _ _ => rfl
    exact Restarts.ldm hev putsAt_setReg placing_setReg
      (partlyLoaded_of_aborted_r15 putsAt_setReg placing_setReg habr hev aborts junk _ _ hdest h)
      _ _ _

include habr hev in
lemma armLoadMultipleS_restarts (h : (armLoadMultipleS (faultyBus aborts junk) op a
      (address (a.reg (rn op))) (writeback (a.reg (rn op)))).aborted = true) :
    Restarts op (placesFrom (faultyBus aborts junk) op a (placeS op a) (address (a.reg (rn op)))) a
      (armLoadMultipleS (faultyBus aborts junk) op a (address (a.reg (rn op)))
        (writeback (a.reg (rn op))))
      fun s => armLoadMultipleS soundBus op s (address (s.reg (rn op))) (writeback (s.reg (rn op))) := by
  unfold armLoadMultipleS placeS at *
  cases hr15 : listsR15 op with
  | false =>
    simp only [hr15, Bool.false_eq_true, if_false] at h ⊢
    exact Restarts.ldm hev putsAt_putUser placing_putUser
      (partlyLoaded_of_aborted putsAt_putUser placing_putUser habr hev aborts junk _ _ h) _ _ _
  | true =>
    simp only [hr15, if_true] at h ⊢
    have hdest : ∀ (t : ArmState Ram) v, (armWriteR15 t v).world = t.world := fun t v =>
      (Kept.armWriteR15 t v).world
    exact Restarts.ldm hev putsAt_setReg placing_setReg
      (partlyLoaded_of_aborted_r15 putsAt_setReg placing_setReg habr hev aborts junk _ _ hdest h)
      _ _ _

include hev in
lemma unlessBit4_restarts {ps : List RegPtr} {t : ArmState Ram} {again : ArmState Ram → ArmState Ram}
    (h : (unlessBit4 op a t).aborted = true)
    (hbelow : t.aborted = true → Restarts op ps a t again) :
    Restarts op ps a (unlessBit4 op a t) fun s => unlessBit4 op s (again s) := by
  unfold unlessBit4 at h ⊢
  split at h
  · rw [aborted_eq, armExceptionUndefined, (Kept.exception _ _ _ _).world, ← aborted_eq, hev] at h
    exact absurd h (by decide)
  · rename_i hbit
    simp only [if_neg hbit]
    exact hbelow h

include habr hstm hev in
/-- **The transfers of the switch.** -/
lemma body_restarts (c : Case) (hc : c.isTransfer op = true)
    (h : (c.body (faultyBus aborts junk) op a).aborted = true) :
    Restarts op (c.loaded (faultyBus aborts junk) op a) a (c.body (faultyBus aborts junk) op a)
      fun s => c.body soundBus op s := by
  cases c with
  | mrsCpsrSwp =>
    simp only [Case.isTransfer] at hc
    simp only [Case.body, hc, if_true] at h ⊢
    exact .of_fault hev (swapOp_aborted hev (loads_word _ _) (stores_word _ _) h) _ _
  | mrsSpsrSwpb =>
    simp only [Case.isTransfer] at hc
    simp only [Case.body, hc, if_true] at h ⊢
    exact .of_fault hev (swapOp_aborted hev (loads_byte _ _) (stores_byte _ _) h) _ _
  | strtReg =>
    exact unlessBit4_restarts hev h fun h =>
      .of_fault hev (storeUser_aborted hev habr (stores_wordUser _ _) h) _ _
  | strt => exact .of_fault hev (storeUser_aborted hev habr (stores_wordUser _ _) h) _ _
  | ldrtReg =>
    exact unlessBit4_restarts hev h fun h =>
      .of_fault hev (loadUser_aborted hev habr (loads_wordUser _ _) h) _ _
  | ldrt => exact .of_fault hev (loadUser_aborted hev habr (loads_wordUser _ _) h) _ _
  | strbtReg =>
    exact unlessBit4_restarts hev h fun h =>
      .of_fault hev (storeUser_aborted hev habr (stores_byteUser _ _) h) _ _
  | strbt => exact .of_fault hev (storeUser_aborted hev habr (stores_byteUser _ _) h) _ _
  | ldrbtReg =>
    exact unlessBit4_restarts hev h fun h =>
      .of_fault hev (loadUser_aborted hev habr (loads_byteUser _ _) h) _ _
  | ldrbt => exact .of_fault hev (loadUser_aborted hev habr (loads_byteUser _ _) h) _ _
  | strReg =>
    exact unlessBit4_restarts hev h fun h =>
      .of_fault hev (storeSingle_aborted hev habr (stores_word _ _) h) _ _
  | str => exact .of_fault hev (storeSingle_aborted hev habr (stores_word _ _) h) _ _
  | ldrReg =>
    exact unlessBit4_restarts hev h fun h =>
      .of_fault hev (loadSingle_aborted hev habr (loads_word _ _) h) _ _
  | ldr => exact .of_fault hev (loadSingle_aborted hev habr (loads_word _ _) h) _ _
  | strbReg =>
    exact unlessBit4_restarts hev h fun h =>
      .of_fault hev (storeSingle_aborted hev habr (stores_byte _ _) h) _ _
  | strb => exact .of_fault hev (storeSingle_aborted hev habr (stores_byte _ _) h) _ _
  | ldrbReg =>
    exact unlessBit4_restarts hev h fun h =>
      .of_fault hev (loadSingle_aborted hev habr (loads_byte _ _) h) _ _
  | ldrb => exact .of_fault hev (loadSingle_aborted hev habr (loads_byte _ _) h) _ _
  | stmd => exact .stm hev hstm steady_reg aborts junk (downFrom op) (· - armLdmStmOffset op) h
  | stmi => exact .stm hev hstm steady_reg aborts junk (upFrom op) (· + armLdmStmOffset op) h
  | stmds => exact .stm hev hstm steady_usrregs aborts junk (downFrom op) (· - armLdmStmOffset op) h
  | stmis => exact .stm hev hstm steady_usrregs aborts junk (upFrom op) (· + armLdmStmOffset op) h
  | ldmd =>
    exact armLoadMultiple_restarts habr hev aborts junk (downFrom op) (· - armLdmStmOffset op) h
  | ldmi => exact armLoadMultiple_restarts habr hev aborts junk (upFrom op) (· + armLdmStmOffset op) h
  | ldmds =>
    exact armLoadMultipleS_restarts habr hev aborts junk (downFrom op) (· - armLdmStmOffset op) h
  | ldmis =>
    exact armLoadMultipleS_restarts habr hev aborts junk (upFrom op) (· + armLdmStmOffset op) h
  | _ => exact absurd hc (by simp [Case.isTransfer])

include habr hstm hev in
lemma armOpcode_restarts (htr : isTransfer op a = true)
    (h : (armOpcode (faultyBus aborts junk) op a).aborted = true) :
    Restarts op (alreadyLoaded (faultyBus aborts junk) op a) a
      (armOpcode (faultyBus aborts junk) op a) (armOpcode soundBus op) := by
  unfold armOpcode at h
  unfold isTransfer at htr
  by_cases hhalf : (a.archV4 && isHalf op) = true
  · rw [if_pos hhalf] at h
    by_cases hload : op &&& 0x100000 ≠ 0
    · rw [if_pos hload] at h
      have ht : armOpcode (faultyBus aborts junk) op a = armLdrh (faultyBus aborts junk) op a := by
        rw [armOpcode, if_pos hhalf, if_pos hload]
      have hl : Loads fun (a : ArmState Ram) addr =>
          let r := memRead32 (faultyBus aborts junk) a (addr &&& ~~~3)
          (if addr &&& 2 ≠ 0 then r.1 >>> 16 else r.1 &&& 0xffff, r.2) :=
        fun a _ => read32_cases aborts junk a a.memmode _
      rw [ht]
      exact .of_fault hev (loadHalf_aborted hev hl h) _ _
    · rw [if_neg hload] at h
      have ht : ∀ (bus : Bus Ram) (s : ArmState Ram), s.archV4 = a.archV4 →
          armOpcode bus op s = armStrh bus op s := by
        intro bus s hs
        rw [armOpcode, hs, if_pos hhalf, if_neg hload]
      rw [ht _ _ rfl]
      exact (Restarts.strh hev aborts junk h _).congr (ht soundBus)
  · rw [if_neg hhalf] at h
    by_cases hsigned : (a.archV4 && isSigned op) = true
    · rw [if_pos hsigned] at h
      by_cases hbyte : op &&& 0xf0 = 0xd0
      · rw [if_pos hbyte] at h
        have ht : armOpcode (faultyBus aborts junk) op a = armLdrsb (faultyBus aborts junk) op a := by
          rw [armOpcode, if_neg hhalf, if_pos hsigned, if_pos hbyte]
        have hl : Loads fun (a : ArmState Ram) addr =>
            let r := memRead8 (faultyBus aborts junk) a addr
            (r.1.toInt8.toInt32.toUInt32, r.2) :=
          fun a _ => read8_cases aborts junk a a.memmode _
        rw [ht]
        exact .of_fault hev (loadHalf_aborted hev hl h) _ _
      · rw [if_neg hbyte] at h
        have ht : armOpcode (faultyBus aborts junk) op a = armLdrsh (faultyBus aborts junk) op a := by
          rw [armOpcode, if_neg hhalf, if_pos hsigned, if_neg hbyte]
        have hl : Loads fun (a : ArmState Ram) addr =>
            let r := memRead32 (faultyBus aborts junk) a (addr &&& ~~~3)
            (if addr &&& 2 ≠ 0 then asr r.1 16 else r.1.toUInt16.toInt16.toInt32.toUInt32, r.2) :=
          fun a _ => read32_cases aborts junk a a.memmode _
        rw [ht]
        exact .of_fault hev (loadHalf_aborted hev hl h) _ _
    · rw [if_neg hsigned] at h
      have ht : ∀ (bus : Bus Ram) (s : ArmState Ram), s.archV4 = a.archV4 →
          armOpcode bus op s = (switchCase (opIndex op)).body bus op s := by
        intro bus s hs
        rw [armOpcode, hs, if_neg hhalf, if_neg hsigned]
      have hc : (switchCase (opIndex op)).isTransfer op = true := by
        simp only [Bool.and_or_distrib_left, hhalf, hsigned, Bool.or_self, Bool.false_or] at htr
        exact htr
      rw [ht _ _ rfl]
      exact (body_restarts habr hstm hev aborts junk _ hc h).congr (ht soundBus)

end Opcode

lemma not_mem_alreadyLoaded {op : UInt32} {a : ArmState Ram}
    (hu : ∀ r < 15, a.usrregs r = userPtr a.mode r) (bus : Bus Ram) {r : Nat} (hr : 15 ≤ r) :
    RegPtr.reg r ∉ alreadyLoaded bus op a := by
  have hplace : ∀ {place : Nat → RegPtr}, (∀ c < 15, place c = .reg c ∨ place c = .user c) →
      ∀ address, RegPtr.reg r ∉ placesFrom bus op a place address := by
    intro place hp address hmem
    obtain ⟨e, he, heq⟩ := List.mem_map.mp hmem
    have hlt := mem_regList (mem_of_mem_loadWords bus he)
    rcases hp e.1 hlt with h | h <;> rw [h] at heq
    · cases heq
      omega
    · cases heq
  have hreg : ∀ c < 15, RegPtr.reg c = .reg c ∨ RegPtr.reg c = .user c := fun _ _ => Or.inl rfl
  have hs : ∀ c < 15, placeS op a c = .reg c ∨ placeS op a c = .user c := by
    intro c hc
    unfold placeS
    split
    · exact Or.inl rfl
    · rw [hu c hc, userPtr]
      split
      · exact Or.inl rfl
      · exact Or.inr rfl
  unfold alreadyLoaded
  cases switchCase (opIndex op) with
  | ldmd => exact hplace hreg _
  | ldmi => exact hplace hreg _
  | ldmds => exact hplace hs _
  | ldmis => exact hplace hs _
  | _ => exact List.not_mem_nil

/-- **Aborted transfers restart.**  On a processor that restores its base and writes it back at the end
of a store: when some access of a load or store aborts, the base, the status and every register but
those an LDM has already loaded are as before, and the instruction made again, with every access
granted, comes to what it would have come to at first. -/
theorem aborted_transfer_restarts (aborts : Oracle) (junk op : UInt32) (a : ArmState Ram)
    (habr : a.abortBaseRestored = true) (hstm : a.stmWritebackAtEnd = true) (hev : a.aborted = false)
    (hu : ∀ r < 15, a.usrregs r = userPtr a.mode r) (htr : isTransfer op a = true)
    (h : (armOpcode (faultyBus aborts junk) op a).aborted = true) :
    let t := armOpcode (faultyBus aborts junk) op a
    t.reg (rn op) = a.reg (rn op) ∧ t.reg 15 = a.reg 15 ∧ t.reg 16 = a.reg 16 ∧
      AgreeOff (alreadyLoaded (faultyBus aborts junk) op a) a (t.withWorld a.world) ∧
      armOpcode soundBus op (resume t) = armOpcode soundBus op a := by
  have hr := armOpcode_restarts habr hstm hev aborts junk htr h
  refine ⟨hr.base, hr.agree.reg 15 ?_, hr.agree.reg 16 ?_, hr.agree, hr.again⟩
  · exact not_mem_alreadyLoaded hu _ (Nat.le_refl 15)
  · exact not_mem_alreadyLoaded hu _ (by omega)

theorem aborted_transfer_restarts_ldm :
    let a := (armReset .sa110 true ⟨0, fun _ => 5⟩).setReg 1 0x1ffc
    let aborts : Oracle := fun _ _ addr => addr == 0x2000
    let t := armOpcode (faultyBus aborts 0) 0xe8b10007 a
    t.aborted = true ∧ t.reg 0 = 0x05050505 ∧ t.reg (rn 0xe8b10007) = a.reg (rn 0xe8b10007) ∧
      t.reg 15 = a.reg 15 ∧ t.reg 16 = a.reg 16 ∧
      AgreeOff (alreadyLoaded (faultyBus aborts 0) 0xe8b10007 a) a (t.withWorld a.world) ∧
      armOpcode soundBus 0xe8b10007 (resume t) = armOpcode soundBus 0xe8b10007 a := by
  refine ⟨by decide +kernel, by decide +kernel, ?_⟩
  exact aborted_transfer_restarts _ _ _ _ (by decide +kernel) (by decide +kernel)
    (by decide +kernel) (by decide +kernel) (by decide +kernel) (by decide +kernel)

end RpcEmu.Arm
