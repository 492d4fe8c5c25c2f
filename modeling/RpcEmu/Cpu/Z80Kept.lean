import RpcEmu.Cpu.Core
import RpcEmu.Cpu.Z80

/-!
# The pieces of a Z80 instruction

Every piece of a Z80 instruction is `Kept`: its accesses decide the stall flag, its accesses and the
opcodes it refuses decide the fault flag, and nothing but the registers changes beside them.  What the
three pages refuse is said by `mainRefuses`, `cbRefuses` and `edRefuses`.

HALT is the one instruction that changes more than registers, and CB the one opcode of the main page
that fetches another; both are left to the whole step.
-/

namespace RpcEmu

open Effects CoreView

namespace CpuZ80

def view : CoreView State State where
  hooked s := s.hooked
  stalled s := s.stalled
  faulted s := s.faulted
  rest s := { s with toRegs := Regs.zero, lastCycles := 0, branchTaken := false, dispFetched := false,
                     disp := 0, stalled := false, stallAddr := 0, stallIsWrite := false,
                     faulted := false, faultCause := 0, faultAddr := 0 }

/-! ## Memory -/

section Hooked

variable {s : State} (hs : s.hooked = true)
include hs

lemma kept_hookedRead (addr : UInt32) :
    ((hookedRead addr).run s).Always fun tr out => view.Kept false s tr out.2 := by
  rintro ⟨res, v⟩
  cases res with
  | ok => exact kept_done rfl rfl
  | stall => exact kept_stall hs rfl rfl rfl rfl rfl rfl
  | busError => exact kept_fault rfl rfl rfl rfl fun _ => rfl

lemma kept_hookedWrite (addr : UInt32) (val : UInt8) :
    ((hookedWrite addr val).run s).Always fun tr out => view.Kept false s tr out.2 := by
  intro res
  cases res with
  | ok => exact kept_done rfl rfl
  | stall => exact kept_stall hs rfl rfl rfl rfl rfl rfl
  | busError => exact kept_fault rfl rfl rfl rfl fun _ => rfl

end Hooked

lemma kept_rd8 (addr : UInt16) : Respects (view.Kept false) (rd8 addr) := by
  intro s
  rw [rd8, StateT.run_bind, StateT.run_get, pure_bind]
  by_cases hs : s.hooked = true
  · rw [if_pos hs]
    exact kept_hookedRead hs _
  · rw [if_neg hs]
    split
    · exact kept_fault rfl rfl rfl rfl fun h => absurd h hs
    · exact fun r => kept_done rfl rfl

lemma kept_wr8 (addr : UInt16) (val : UInt8) : Respects (view.Kept false) (wr8 addr val) := by
  intro s
  rw [wr8, StateT.run_bind, StateT.run_get, pure_bind]
  by_cases hs : s.hooked = true
  · rw [if_pos hs]
    exact kept_hookedWrite hs _ _
  · rw [if_neg hs]
    split
    · exact kept_fault rfl rfl rfl rfl fun h => absurd h hs
    · exact fun r => kept_done rfl rfl

lemma kept_ioRead (port : UInt8) : Respects (view.Kept false) (ioRead port) := by
  intro s
  rw [ioRead, StateT.run_bind, StateT.run_get, pure_bind]
  by_cases hs : s.hooked = true
  · rw [if_pos hs]
    exact kept_hookedRead hs _
  · rw [if_neg hs]
    exact fun r => kept_done rfl rfl

lemma kept_ioWrite (port val : UInt8) : Respects (view.Kept false) (ioWrite port val) := by
  intro s
  rw [ioWrite, StateT.run_bind, StateT.run_get, pure_bind]
  by_cases hs : s.hooked = true
  · rw [if_pos hs]
    exact kept_hookedWrite hs _ _
  · rw [if_neg hs]
    exact fun r => kept_done rfl rfl

lemma kept_modifyRegs (f : Regs → Regs) : Respects (view.Kept false) (modifyRegs f) :=
  kept_modify fun _ => ⟨rfl, rfl, rfl, rfl⟩

lemma kept_illegal (op : UInt8) : Respects (view.Kept true) (illegal op) :=
  Respects.of_modify fun _ => kept_fault rfl rfl rfl rfl fun _ => rfl

lemma kept_guard {α : Type} {b : Bool} {a : α} {f : State → Exec State α}
    (hf : ∀ s, Respects (view.Kept b) (f s)) :
    Respects (view.Kept b) (do
      let s ← get
      if s.faulted then pure a else f s) := by
  intro s
  rw [StateT.run_bind, StateT.run_get, pure_bind]
  by_cases h : s.faulted = true
  · rw [if_pos h]
    exact ⟨Tracked.refl s, fun _ => by simp [view, h],
      fun _ h' => absurd (h.symm.trans h') (by decide)⟩
  · rw [if_neg h]
    exact hf s s

lemma kept_charge (cost : State → UInt8) :
    Respects (view.Kept false) (modify fun s => { s with lastCycles := cost s } : Exec State Unit) :=
  kept_modify fun _ => ⟨rfl, rfl, rfl, rfl⟩

lemma kept_mainCharge (pfx op : UInt8) (fell : Bool) :
    Respects (view.Kept false) (if fell && op ≠ 0xcb then
      modify fun s => { s with lastCycles := mainCost s pfx op } else pure () : Exec State Unit) :=
  Respects.of_ite (kept_charge fun s => mainCost s pfx op) (kept_pure _)

/-! ## The pieces of an instruction -/

lemma kept_fetch8 : Respects (view.Kept false) fetch8 :=
  kept_bind kept_get fun s => kept_bind (kept_rd8 s.pc) fun v =>
    kept_bind (kept_modifyRegs _) fun _ => kept_pure v

lemma kept_fetch16 : Respects (view.Kept false) fetch16 :=
  kept_bind kept_fetch8 fun _ => kept_bind kept_fetch8 fun _ => kept_pure _

lemma kept_rd16 (addr : UInt16) : Respects (view.Kept false) (rd16 addr) :=
  kept_bind (kept_rd8 _) fun _ => kept_bind (kept_rd8 _) fun _ => kept_pure _

lemma kept_wr16 (addr val : UInt16) : Respects (view.Kept false) (wr16 addr val) :=
  kept_bind (kept_wr8 _ _) fun _ => kept_wr8 _ _

lemma kept_push16 (val : UInt16) : Respects (view.Kept false) (push16 val) :=
  kept_bind (kept_modifyRegs _) fun _ => kept_bind kept_get fun _ => kept_wr16 _ _

lemma kept_pop16 : Respects (view.Kept false) pop16 :=
  kept_bind kept_get fun _ => kept_bind (kept_rd16 _) fun _ =>
    kept_bind (kept_modifyRegs _) fun _ => kept_pure _

lemma kept_fetchDisp : Respects (view.Kept false) fetchDisp :=
  kept_bind kept_fetch8 fun _ => kept_modify fun _ => ⟨rfl, rfl, rfl, rfl⟩

lemma kept_idxAddr (pfx : UInt8) : Respects (view.Kept false) (idxAddr pfx) := by
  refine kept_bind kept_get fun s => Respects.of_ite (kept_pure _) ?_
  refine Respects.of_ite (kept_pure _) ?_
  exact kept_bind kept_fetchDisp fun _ => kept_bind kept_get fun _ => kept_pure _

lemma kept_regRead (pfx : UInt8) (idx : Nat) (idx6 : Bool) (op : UInt8) :
    Respects (view.Kept (indexHalf pfx idx idx6)) (regRead pfx idx idx6 op) := by
  rw [regRead]
  by_cases h6 : idx = 6
  · subst h6
    rw [if_pos rfl]
    exact kept_bind (kept_idxAddr pfx) fun _ => kept_rd8 _
  · rw [if_neg h6]
    cases indexHalf pfx idx idx6 with
    | true => exact kept_bind_left (kept_illegal op) fun _ => kept_pure _
    | false => exact kept_bind kept_get fun _ => kept_pure _

lemma kept_regWrite (pfx : UInt8) (idx : Nat) (idx6 : Bool) (op val : UInt8) :
    Respects (view.Kept (indexHalf pfx idx idx6)) (regWrite pfx idx idx6 op val) := by
  rw [regWrite]
  by_cases h6 : idx = 6
  · subst h6
    rw [if_pos rfl]
    exact kept_bind (kept_idxAddr pfx) fun _ => kept_wr8 _ _
  · rw [if_neg h6]
    cases indexHalf pfx idx idx6 with
    | true =>
      rw [if_pos rfl]
      exact kept_illegal op
    | false =>
      rw [if_neg Bool.false_ne_true]
      exact kept_modifyRegs _

lemma indexHalf_zero (idx : Nat) (idx6 : Bool) : indexHalf 0 idx idx6 = false := by
  simp [indexHalf]

/-! ## The ED page -/

def edRefuses (pfx op : UInt8) : Bool :=
  pfx ≠ 0 ||
    match fieldX op with
    | 2 => !(4 ≤ fieldY op && fieldZ op ≤ 3)
    | 1 =>
      match fieldZ op with
      | 1 => fieldY op = 6
      | 0 | 2 | 3 | 4 | 5 | 6 => false
      | _ => 6 ≤ fieldY op
    | _ => true

lemma kept_again (c : Prop) [Decidable c] :
    Respects (view.Kept false) (if c then again else pure ()) :=
  Respects.of_ite (kept_modify fun _ => ⟨rfl, rfl, rfl, rfl⟩) (kept_pure _)

lemma kept_blockCount (step : UInt16) (repeats : Bool) :
    Respects (view.Kept false) (blockCount step repeats) :=
  kept_bind kept_get fun _ => kept_bind (kept_modifyRegs _) fun _ => kept_again _

lemma kept_edBlock (y z : Nat) : Respects (view.Kept false) (edBlock y z) := by
  match z with
  | 0 =>
    exact kept_bind kept_get fun _ => kept_bind (kept_rd8 _) fun _ =>
      kept_bind (kept_wr8 _ _) fun _ => kept_bind (kept_modifyRegs _) fun _ => kept_again _
  | 1 =>
    exact kept_bind kept_get fun _ => kept_bind (kept_rd8 _) fun _ =>
      kept_bind (kept_modifyRegs _) fun _ => kept_again _
  | 2 =>
    exact kept_bind kept_get fun _ => kept_bind (kept_ioRead _) fun _ =>
      kept_bind (kept_wr8 _ _) fun _ => kept_blockCount _ _
  | n + 3 =>
    exact kept_bind kept_get fun _ => kept_bind (kept_rd8 _) fun _ =>
      kept_bind (kept_ioWrite _ _) fun _ => kept_blockCount _ _

lemma kept_edNibbleRotate (left : Bool) : Respects (view.Kept false) (edNibbleRotate left) :=
  kept_bind kept_get fun _ => kept_bind (kept_rd8 _) fun _ => kept_bind (kept_wr8 _ _) fun _ =>
    kept_modifyRegs _

lemma kept_edIn (op : UInt8) : Respects (view.Kept false) (edIn 0 op) := by
  refine kept_bind kept_get fun _ => kept_bind (kept_ioRead _) fun _ =>
    kept_bind (kept_modifyRegs _) fun _ => Respects.of_ite ?_ (kept_pure _)
  have h := kept_regWrite 0 (fieldY op) false op
  rw [indexHalf_zero] at h
  exact h _

lemma kept_edOut (op : UInt8) : Respects (view.Kept false) (edOut 0 op) := by
  have h := kept_regRead 0 (fieldY op) false op
  rw [indexHalf_zero] at h
  exact kept_bind h fun _ => kept_bind kept_get fun _ => kept_ioWrite _ _

lemma kept_edLoad16 (pfx : UInt8) (y : Nat) : Respects (view.Kept false) (edLoad16 pfx y) := by
  refine kept_bind kept_fetch16 fun _ => Respects.of_ite ?_ ?_
  · exact kept_bind kept_get fun _ => kept_wr16 _ _
  · exact kept_bind (kept_rd16 _) fun _ => kept_modifyRegs _

lemma kept_edSpecial (op : UInt8) :
    Respects (view.Kept (6 ≤ fieldY op)) (edSpecial op) := by
  rw [edSpecial]
  match hy : fieldY op with
  | 0 => exact kept_modifyRegs _
  | 1 => exact kept_modifyRegs _
  | 2 => exact kept_modifyRegs _
  | 3 => exact kept_modifyRegs _
  | 4 => exact kept_edNibbleRotate _
  | 5 => exact kept_edNibbleRotate _
  | n + 6 =>
    rw [decide_eq_true (Nat.le_add_left 6 n)]
    exact kept_illegal op

theorem kept_edBody (pfx op : UInt8) : Respects (view.Kept (edRefuses pfx op)) (edBody pfx op) := by
  rw [edBody, edRefuses]
  by_cases hp : pfx = 0
  · subst hp
    rw [if_neg (not_not.mpr rfl), decide_eq_false (not_not.mpr rfl), Bool.false_or]
    match hx : fieldX op with
    | 0 => exact kept_illegal op
    | 1 =>
      dsimp only
      match hz : fieldZ op with
      | 0 => exact kept_edIn op
      | 1 =>
        by_cases h6 : fieldY op = 6
        · rw [if_pos h6, decide_eq_true h6]
          exact kept_illegal op
        · rw [if_neg h6, decide_eq_false h6]
          exact kept_edOut op
      | 2 => exact kept_modifyRegs _
      | 3 => exact kept_edLoad16 _ _
      | 4 => exact kept_modify fun _ => ⟨rfl, rfl, rfl, rfl⟩
      | 5 =>
        exact kept_bind (kept_modifyRegs _) fun _ => kept_bind kept_pop16 fun _ =>
          kept_modifyRegs _
      | 6 => exact kept_modifyRegs _
      | n + 7 => exact kept_edSpecial op
    | 2 =>
      dsimp only
      cases hb : (decide (4 ≤ fieldY op) && decide (fieldZ op ≤ 3)) with
      | true =>
        rw [if_pos rfl]
        exact kept_edBlock _ _
      | false =>
        rw [if_neg Bool.false_ne_true]
        exact kept_illegal op
    | n + 3 => exact kept_illegal op
  · rw [if_pos hp, decide_eq_true hp, Bool.true_or]
    exact kept_illegal op

/-! ## The CB page -/

def cbRefuses (pfx op : UInt8) : Bool :=
  (pfx ≠ 0 && fieldZ op ≠ 6) || (fieldX op = 0 && fieldY op = 6)

lemma kept_cbShift (y : Nat) (v op : UInt8) :
    Respects (view.Kept (y = 6)) (cbShift y v op) := by
  rw [cbShift]
  by_cases h6 : y = 6
  · rw [if_pos h6, decide_eq_true h6]
    exact kept_bind_left (kept_illegal op) fun _ => kept_pure _
  · rw [if_neg h6, decide_eq_false h6]
    exact kept_bind kept_get fun _ => kept_bind (kept_modifyRegs _) fun _ => kept_pure _

lemma kept_cbModify (op v : UInt8) :
    Respects (view.Kept (fieldX op = 0 && fieldY op = 6)) (cbModify op v) := by
  rw [cbModify]
  match hx : fieldX op with
  | 0 => exact kept_cbShift _ _ _
  | 1 => exact kept_pure _
  | 2 => exact kept_pure _
  | n + 3 => exact kept_pure _

lemma cb_operand {pfx op : UInt8} (h : (decide (pfx ≠ 0) && decide (fieldZ op ≠ 6)) = false) :
    fieldZ op = 6 ∨ pfx = 0 := by
  rcases Bool.and_eq_false_iff.mp h with h | h
  · exact .inr (not_not.mp (of_decide_eq_false h))
  · exact .inl (not_not.mp (of_decide_eq_false h))

lemma kept_cbOperand {pfx op : UInt8} (h : fieldZ op = 6 ∨ pfx = 0) (addr : UInt16) :
    Respects (view.Kept false) (cbOperand pfx op addr) := by
  rw [cbOperand]
  by_cases h6 : fieldZ op = 6
  · rw [if_pos h6]
    exact kept_rd8 _
  · obtain rfl := h.resolve_left h6
    have hr := kept_regRead 0 (fieldZ op) false op
    rw [indexHalf_zero] at hr
    rw [if_neg h6]
    exact hr

lemma kept_cbResult {pfx op : UInt8} (h : fieldZ op = 6 ∨ pfx = 0) (addr : UInt16) (v : UInt8) :
    Respects (view.Kept false)
      (if fieldZ op = 6 then wr8 addr v else regWrite pfx (fieldZ op) false op v) := by
  by_cases h6 : fieldZ op = 6
  · rw [if_pos h6]
    exact kept_wr8 _ _
  · obtain rfl := h.resolve_left h6
    have hr := kept_regWrite 0 (fieldZ op) false op v
    rw [indexHalf_zero] at hr
    rw [if_neg h6]
    exact hr

theorem kept_cbBody (pfx op : UInt8) : Respects (view.Kept (cbRefuses pfx op)) (cbBody pfx op) := by
  rw [cbBody, cbRefuses]
  cases hp : (decide (pfx ≠ 0) && decide (fieldZ op ≠ 6)) with
  | true =>
    rw [if_pos rfl, Bool.true_or]
    exact kept_illegal op
  | false =>
    rw [if_neg Bool.false_ne_true, Bool.false_or]
    have ho := cb_operand hp
    refine kept_bind kept_get fun _ => kept_bind (kept_cbOperand ho _) fun v => kept_guard fun _ => ?_
    by_cases h1 : fieldX op = 1
    · rw [if_pos h1, h1]
      exact kept_modifyRegs _
    · rw [if_neg h1]
      exact kept_bind_left (kept_cbModify op v) fun _ => kept_guard fun _ => kept_cbResult ho _ _

/-! ## The main page -/

def mainRefuses (pfx op : UInt8) : Bool :=
  let y := fieldY op
  let z := fieldZ op
  match fieldX op with
  | 0 =>
    match z with
    | 4 | 5 | 6 => indexHalf pfx y (y = 6)
    | _ => false
  | 1 =>
    !(y = 6 && z = 6) && (indexHalf pfx z (y = 6 || z = 6) || indexHalf pfx y (y = 6 || z = 6))
  | 2 => indexHalf pfx z (z = 6)
  | _ => z = 5 && fieldQ y ≠ 0 && fieldP y ≠ 0

lemma kept_fallsOut {b : Bool} {x : Exec State Unit} (hx : Respects (view.Kept b) x) :
    Respects (view.Kept b) (fallsOut x) :=
  kept_bind_left hx fun _ => kept_pure _

lemma kept_branch : Respects (view.Kept false) branch := kept_modify fun _ => ⟨rfl, rfl, rfl, rfl⟩

lemma kept_mainJump (y : Nat) : Respects (view.Kept false) (mainJump y) := by
  have hjump : ∀ d, Respects (view.Kept false) (do
      jumpRelative d
      branch) := fun d => kept_bind (kept_modifyRegs _) fun _ => kept_branch
  unfold mainJump
  match y with
  | 0 => exact kept_pure _
  | 1 => exact kept_modifyRegs _
  | 2 =>
    exact kept_bind kept_fetch8 fun _ => kept_bind (kept_modifyRegs _) fun _ =>
      kept_bind kept_get fun _ => Respects.of_ite (hjump _) (kept_pure _)
  | 3 => exact kept_bind kept_fetch8 fun _ => kept_modifyRegs _
  | n + 4 =>
    exact kept_bind kept_fetch8 fun _ => kept_bind kept_get fun _ =>
      Respects.of_ite (hjump _) (kept_pure _)

lemma kept_mainPair (pfx : UInt8) (y : Nat) : Respects (view.Kept false) (mainPair pfx y) :=
  Respects.of_ite (kept_bind kept_fetch16 fun _ => kept_modifyRegs _) (kept_modifyRegs _)

lemma kept_mainIndirect (pfx : UInt8) (y : Nat) : Respects (view.Kept false) (mainIndirect pfx y) := by
  match y with
  | 0 => exact kept_bind kept_get fun _ => kept_wr8 _ _
  | 1 => exact kept_bind kept_get fun _ => kept_bind (kept_rd8 _) fun _ => kept_modifyRegs _
  | 2 => exact kept_bind kept_get fun _ => kept_wr8 _ _
  | 3 => exact kept_bind kept_get fun _ => kept_bind (kept_rd8 _) fun _ => kept_modifyRegs _
  | 4 => exact kept_bind kept_fetch16 fun _ => kept_bind kept_get fun _ => kept_wr16 _ _
  | 5 => exact kept_bind kept_fetch16 fun _ => kept_bind (kept_rd16 _) fun _ => kept_modifyRegs _
  | 6 => exact kept_bind kept_fetch16 fun _ => kept_bind kept_get fun _ => kept_wr8 _ _
  | n + 7 =>
    exact kept_bind kept_fetch16 fun _ => kept_bind (kept_rd8 _) fun _ => kept_modifyRegs _

lemma kept_mainStep (alu : Bool → Regs → UInt8 → Regs × UInt8) (pfx op : UInt8) :
    Respects (view.Kept (indexHalf pfx (fieldY op) (fieldY op = 6))) (mainStep alu pfx op) := by
  rw [← Bool.or_self (indexHalf pfx (fieldY op) (fieldY op = 6))]
  refine kept_bind_or (kept_regRead pfx _ _ op) fun v => kept_guard fun s => ?_
  exact kept_bind (kept_modifyRegs _) fun _ =>
    kept_bind_left (kept_regWrite pfx _ _ op _) fun _ => kept_pure _

lemma kept_mainLoadImmediate (pfx op : UInt8) :
    Respects (view.Kept (indexHalf pfx (fieldY op) (fieldY op = 6))) (mainLoadImmediate pfx op) := by
  rw [mainLoadImmediate]
  split
  · rename_i h
    have h6 : fieldY op = 6 := of_decide_eq_true (Bool.and_eq_true_iff.mp h).1
    rw [h6]
    exact kept_bind (kept_idxAddr _) fun _ => kept_bind kept_fetch8 fun _ => kept_wr8 _ _
  · exact kept_bind kept_fetch8 fun _ => kept_regWrite pfx _ _ op _

lemma kept_mainQuadrant0 {pfx op : UInt8} (hx : fieldX op = 0) :
    Respects (view.Kept (mainRefuses pfx op)) (mainQuadrant0 pfx op) := by
  rw [mainQuadrant0, mainRefuses, hx]
  match hz : fieldZ op with
  | 0 => exact kept_fallsOut (kept_mainJump _)
  | 1 => exact kept_fallsOut (kept_mainPair _ _)
  | 2 => exact kept_fallsOut (kept_mainIndirect _ _)
  | 3 => exact kept_fallsOut (kept_modifyRegs _)
  | 4 => exact kept_mainStep _ _ _
  | 5 => exact kept_mainStep _ _ _
  | 6 => exact kept_fallsOut (kept_mainLoadImmediate _ _)
  | n + 7 => exact kept_fallsOut (kept_modify fun _ => ⟨rfl, rfl, rfl, rfl⟩)

def isHalt (op : UInt8) : Bool := fieldX op = 1 && (fieldY op = 6 && fieldZ op = 6)

lemma kept_mainQuadrant1 {pfx op : UInt8} (hx : fieldX op = 1) (hh : isHalt op = false) :
    Respects (view.Kept (mainRefuses pfx op)) (mainQuadrant1 pfx op) := by
  have hne : (decide (fieldY op = 6) && decide (fieldZ op = 6)) = false := by
    simpa [isHalt, hx] using hh
  rw [mainQuadrant1, mainRefuses, hx]
  dsimp only
  rw [hne, if_neg Bool.false_ne_true, Bool.not_false, Bool.true_and]
  exact kept_bind_or (kept_regRead pfx _ _ op) fun v => kept_guard fun _ =>
    kept_fallsOut (kept_regWrite pfx _ _ op v)

lemma kept_mainQuadrant2 {pfx op : UInt8} (hx : fieldX op = 2) :
    Respects (view.Kept (mainRefuses pfx op)) (mainQuadrant2 pfx op) := by
  rw [mainQuadrant2, mainRefuses, hx]
  exact kept_bind_left (kept_regRead pfx _ _ op) fun v => kept_guard fun _ =>
    kept_fallsOut (kept_modify fun _ => ⟨rfl, rfl, rfl, rfl⟩)

lemma kept_call (dest : UInt16) : Respects (view.Kept false) (call dest) :=
  kept_bind kept_get fun _ => kept_bind (kept_push16 _) fun _ => kept_modifyRegs _

lemma kept_mainReturn (pfx : UInt8) (y : Nat) : Respects (view.Kept false) (mainReturn pfx y) := by
  rw [mainReturn]
  match fieldP y with
  | 0 => exact kept_bind kept_pop16 fun _ => kept_modifyRegs _
  | 1 => exact kept_modifyRegs _
  | 2 => exact kept_modifyRegs _
  | n + 3 => exact kept_modifyRegs _

lemma kept_mainExchange {pfx : UInt8} {y : Nat} (hy : y ≠ 1) :
    Respects (view.Kept false) (mainExchange pfx y) := by
  unfold mainExchange
  match y with
  | 0 => exact kept_bind kept_fetch16 fun _ => kept_modifyRegs _
  | 1 => exact absurd rfl hy
  | 2 => exact kept_bind kept_fetch8 fun _ => kept_bind kept_get fun _ => kept_ioWrite _ _
  | 3 => exact kept_bind kept_fetch8 fun _ => kept_bind (kept_ioRead _) fun _ => kept_modifyRegs _
  | 4 =>
    exact kept_bind kept_get fun _ => kept_bind (kept_rd16 _) fun _ =>
      kept_bind (kept_wr16 _ _) fun _ => kept_modifyRegs _
  | 5 => exact kept_modifyRegs _
  | 6 => exact kept_modifyRegs _
  | n + 7 => exact kept_modifyRegs _

lemma kept_mainPush (pfx op : UInt8) :
    Respects (view.Kept (fieldQ (fieldY op) ≠ 0 && fieldP (fieldY op) ≠ 0)) (mainPush pfx op) := by
  rw [mainPush]
  by_cases hq : fieldQ (fieldY op) = 0
  · rw [if_pos hq, decide_eq_false (not_not.mpr hq), Bool.false_and]
    exact kept_bind kept_get fun _ => kept_push16 _
  · rw [if_neg hq, decide_eq_true hq, Bool.true_and]
    by_cases hp : fieldP (fieldY op) = 0
    · rw [if_pos hp, decide_eq_false (not_not.mpr hp)]
      exact kept_bind kept_fetch16 fun _ => kept_call _
    · rw [if_neg hp, decide_eq_true hp]
      exact kept_illegal op

lemma kept_mainQuadrant3 {pfx op : UInt8} {n : Nat} (hx : fieldX op = n + 3)
    (hcb : fieldZ op = 3 → fieldY op ≠ 1) :
    Respects (view.Kept (mainRefuses pfx op)) (mainQuadrant3 pfx op) := by
  rw [mainQuadrant3, mainRefuses, hx]
  match hz : fieldZ op with
  | 0 =>
    exact kept_bind kept_get fun _ => Respects.of_ite
      (kept_bind kept_pop16 fun _ => kept_bind (kept_modifyRegs _) fun _ => kept_branch)
      (kept_pure _)
  | 1 =>
    exact Respects.of_ite (kept_bind kept_pop16 fun _ => kept_modifyRegs _) (kept_mainReturn _ _)
  | 2 =>
    exact kept_bind kept_fetch16 fun _ => kept_bind kept_get fun _ => Respects.of_ite
      (kept_bind (kept_modifyRegs _) fun _ => kept_branch) (kept_pure _)
  | 3 => exact kept_mainExchange (hcb hz)
  | 4 =>
    exact kept_bind kept_fetch16 fun _ => kept_bind kept_get fun _ => Respects.of_ite
      (kept_bind (kept_call _) fun _ => kept_branch) (kept_pure _)
  | 5 => exact kept_mainPush _ _
  | 6 => exact kept_bind kept_fetch8 fun _ => kept_modify fun _ => ⟨rfl, rfl, rfl, rfl⟩
  | n + 7 => exact kept_call _

lemma eq_cb {op : UInt8} (hx : 3 ≤ fieldX op) (hz : fieldZ op = 3) (hy : fieldY op = 1) :
    op = 0xcb := by
  have h : ∀ n < 256, 3 ≤ fieldX (UInt8.ofNat n) → fieldZ (UInt8.ofNat n) = 3 →
      fieldY (UInt8.ofNat n) = 1 → UInt8.ofNat n = 0xcb := by decide +kernel
  have hop := h op.toNat op.toNat_lt
  rw [UInt8.ofNat_toNat] at hop
  exact hop hx hz hy

/-- **Every instruction** but HALT and CB: its accesses and the opcode decide the flags, and only
registers change beside them. -/
theorem kept_mainBody {op : UInt8} (hh : isHalt op = false) (hcb : op ≠ 0xcb) (pfx : UInt8) :
    Respects (view.Kept (mainRefuses pfx op)) (mainBody pfx op) := by
  rw [mainBody]
  match hx : fieldX op with
  | 0 => exact kept_mainQuadrant0 hx
  | 1 => exact kept_mainQuadrant1 hx hh
  | 2 => exact kept_mainQuadrant2 hx
  | n + 3 =>
    exact kept_fallsOut (kept_mainQuadrant3 hx fun hz hy => hcb (eq_cb (by omega) hz hy))

end CpuZ80

end RpcEmu
