import RpcEmu.Cpu.Core
import RpcEmu.Cpu.M6502

/-!
# A 6502 instruction that stalls

Every piece of a 6502 instruction is `Kept`: its accesses set the stall and fault flags exactly when
they should, and nothing but the registers changes beside them.  So an instruction that stalled and
met no bus error ends where it began (`step_ends`), whatever it was and wherever the access stood in
it — with one exception, which halts instead: BRK does not look at the flag before it stops.
-/

namespace RpcEmu

open Effects CoreView

namespace Cpu6502

def view : CoreView State State where
  hooked s := s.hooked
  stalled s := s.stalled
  faulted s := s.faulted
  rest s := { s with toRegs := ⟨0, 0, 0, 0, 0, 0⟩, pageCrossed := false, branchTaken := false,
                     stalled := false, faulted := false }

lemma kept_rd8 (addr : UInt16) : Respects (view.Kept false) (rd8 addr) := by
  intro s
  rw [rd8, StateT.run_bind, StateT.run_get, pure_bind]
  by_cases hs : s.hooked = true
  · rw [if_pos hs]
    rintro ⟨res, v⟩
    cases res with
    | ok => exact kept_done rfl rfl
    | stall => exact kept_stall hs rfl rfl rfl rfl rfl rfl
    | busError => exact kept_fault rfl rfl rfl rfl fun _ => rfl
  · rw [if_neg hs]
    split
    · exact kept_fault rfl rfl rfl rfl fun h => absurd h hs
    · exact fun r => kept_done rfl rfl

lemma kept_wr8 (addr : UInt16) (val : UInt8) : Respects (view.Kept false) (wr8 addr val) := by
  intro s
  rw [wr8, StateT.run_bind, StateT.run_get, pure_bind]
  by_cases hs : s.hooked = true
  · rw [if_pos hs]
    intro res
    cases res with
    | ok => exact kept_done rfl rfl
    | stall => exact kept_stall hs rfl rfl rfl rfl rfl rfl
    | busError => exact kept_fault rfl rfl rfl rfl fun _ => rfl
  · rw [if_neg hs]
    split
    · exact kept_fault rfl rfl rfl rfl fun h => absurd h hs
    · exact fun r => kept_done rfl rfl

/-! ## The pieces of an instruction -/

/-- **A relation every piece of an instruction keeps**: it composes, holds of the two memory helpers,
and does not look at the registers or at the timing flags of the instruction in progress. -/
structure Pieces (R : State → List CpuAsked → State → Prop) : Prop where
  composes : Composes R
  rd8 : ∀ addr, Respects R (rd8 addr)
  wr8 : ∀ addr val, Respects R (wr8 addr val)
  own : ∀ (s : State) (regs : Regs) (pageCrossed branchTaken : Bool),
    R s [] { s with toRegs := regs, pageCrossed := pageCrossed, branchTaken := branchTaken }

namespace Pieces

variable {R : State → List CpuAsked → State → Prop} (hP : Pieces R)
include hP

lemma pure {α : Type} (a : α) : Respects R (Pure.pure a : Exec State α) :=
  Respects.of_pure hP.composes a

lemma get : Respects R (MonadState.get : Exec State State) := Respects.of_get hP.composes

lemma bind {α β : Type} {x : Exec State α} {f : α → Exec State β} (hx : Respects R x)
    (hf : ∀ a, Respects R (f a)) : Respects R (x >>= f) := Respects.of_bind hP.composes hx hf

lemma modifyRegs (f : Regs → Regs) : Respects R (modifyRegs f) :=
  Respects.of_modify fun s => hP.own s _ s.pageCrossed s.branchTaken

lemma fetch8 : Respects R fetch8 :=
  hP.bind hP.get fun s => hP.bind (hP.rd8 s.pc) fun v =>
    hP.bind (hP.modifyRegs _) fun _ => hP.pure v

lemma fetch16 : Respects R fetch16 :=
  hP.bind hP.fetch8 fun _ => hP.bind hP.fetch8 fun _ => hP.pure _

lemma rd16 (lo hi : UInt16) : Respects R (rd16 lo hi) :=
  hP.bind (hP.rd8 lo) fun _ => hP.bind (hP.rd8 hi) fun _ => hP.pure _

lemma push8 (val : UInt8) : Respects R (push8 val) :=
  hP.bind hP.get fun _ => hP.bind (hP.wr8 _ val) fun _ => hP.modifyRegs _

lemma pop8 : Respects R pop8 :=
  hP.bind (hP.modifyRegs _) fun _ => hP.bind hP.get fun _ => hP.rd8 _

lemma zpIndexed (index : Regs → UInt8) : Respects R (zpIndexed index) :=
  hP.bind hP.fetch8 fun _ => hP.bind hP.get fun _ => hP.pure _

lemma indexed (base : UInt16) (index : Regs → UInt8) : Respects R (indexed base index) :=
  hP.bind hP.get fun _ => hP.bind (Respects.of_modify fun s => hP.own s s.toRegs _ s.branchTaken)
    fun _ => hP.pure _

lemma addr (mode : Mode) : Respects R mode.addr := by
  cases mode with
  | imm => exact hP.bind hP.get fun _ => hP.bind (hP.modifyRegs _) fun _ => hP.pure _
  | zp => exact hP.bind hP.fetch8 fun _ => hP.pure _
  | zpx => exact hP.bind (hP.zpIndexed _) fun _ => hP.pure _
  | zpy => exact hP.bind (hP.zpIndexed _) fun _ => hP.pure _
  | abs => exact hP.fetch16
  | absx => exact hP.bind hP.fetch16 fun _ => hP.indexed _ _
  | absy => exact hP.bind hP.fetch16 fun _ => hP.indexed _ _
  | indx => exact hP.bind (hP.zpIndexed _) fun _ => hP.rd16 _ _
  | indy => exact hP.bind hP.fetch8 fun _ => hP.bind (hP.rd16 _ _) fun _ => hP.indexed _ _
  | ind => exact hP.bind hP.fetch8 fun _ => hP.rd16 _ _

lemma opRmw (addr : UInt16) (op : ModifyOp) : Respects R (opRmw addr op) :=
  hP.bind (hP.rd8 addr) fun _ => hP.bind hP.get fun _ =>
    hP.bind (hP.modifyRegs _) fun _ => hP.wr8 _ _

lemma opBranch (take : Bool) : Respects R (opBranch take) := by
  refine hP.bind hP.fetch8 fun off => Respects.of_ite ?_ (hP.pure _)
  exact Respects.of_modify fun s => hP.own s _ _ _

lemma jmpTarget (cmos : Bool) (addr : UInt16) : Respects R (jmpTarget cmos addr) :=
  Respects.of_ite (hP.rd16 _ _) (hP.rd16 _ _)

/-- **Every instruction** is made of the pieces. -/
theorem perform (insn : Insn) : Respects R (perform insn) := by
  cases insn with
  | read op mode =>
    exact hP.bind (hP.addr mode) fun _ => hP.bind (hP.rd8 _) fun _ =>
      hP.bind hP.get fun _ => hP.modifyRegs _
  | rmw op mode => exact hP.bind (hP.addr mode) fun _ => hP.opRmw _ op
  | accumulator op =>
    rw [Cpu6502.perform]
    exact hP.modifyRegs _
  | store reg mode =>
    exact hP.bind (hP.addr mode) fun _ => hP.bind hP.get fun _ => hP.wr8 _ _
  | stz mode => exact hP.bind (hP.addr mode) fun _ => hP.wr8 _ _
  | branch flag on => exact hP.bind hP.get fun _ => hP.opBranch _
  | bra => exact hP.opBranch _
  | flag flag on =>
    rw [Cpu6502.perform]
    exact hP.modifyRegs _
  | transfer dst src =>
    rw [Cpu6502.perform]
    exact hP.modifyRegs _
  | tsx =>
    rw [Cpu6502.perform]
    exact hP.modifyRegs _
  | txs =>
    rw [Cpu6502.perform]
    exact hP.modifyRegs _
  | increment reg =>
    rw [Cpu6502.perform]
    exact hP.modifyRegs _
  | decrement reg =>
    rw [Cpu6502.perform]
    exact hP.modifyRegs _
  | push reg => exact hP.bind hP.get fun _ => hP.push8 _
  | pull reg => exact hP.bind hP.pop8 fun _ => hP.modifyRegs _
  | php => exact hP.bind hP.get fun _ => hP.push8 _
  | plp => exact hP.bind hP.pop8 fun _ => hP.modifyRegs _
  | jmp => exact hP.bind hP.fetch16 fun _ => hP.modifyRegs _
  | jmpInd =>
    exact hP.bind hP.get fun _ => hP.bind hP.fetch16 fun _ =>
      hP.bind (hP.jmpTarget _ _) fun _ => hP.modifyRegs _
  | jmpIndX =>
    exact hP.bind hP.fetch16 fun _ => hP.bind hP.get fun _ =>
      hP.bind (hP.rd16 _ _) fun _ => hP.modifyRegs _
  | jsr =>
    exact hP.bind hP.fetch16 fun _ => hP.bind hP.get fun _ =>
      hP.bind (hP.push8 _) fun _ => hP.bind (hP.push8 _) fun _ => hP.modifyRegs _
  | rti =>
    exact hP.bind hP.pop8 fun _ => hP.bind (hP.modifyRegs _) fun _ =>
      hP.bind hP.pop8 fun _ => hP.bind hP.pop8 fun _ => hP.modifyRegs _
  | rts =>
    exact hP.bind hP.pop8 fun _ => hP.bind hP.pop8 fun _ => hP.modifyRegs _
  | nop => exact hP.pure _
  | brk => exact hP.pure _
  | stp => exact hP.pure _
  | illegal => exact hP.pure _

end Pieces

lemma kept_pieces : Pieces (view.Kept false) where
  composes := view.composes
  rd8 := kept_rd8
  wr8 := kept_wr8
  own _ _ _ _ := kept_of_sameBut ⟨rfl, rfl, rfl, rfl⟩

/-! ## The whole step -/

lemma eq_of_rest {s t : State} (h : view.rest t = view.rest s) :
    t = { s with toRegs := t.toRegs, pageCrossed := t.pageCrossed, branchTaken := t.branchTaken,
                 stalled := t.stalled, faulted := t.faulted } := by
  cases s
  cases t
  simp only [view, State.mk.injEq, true_and] at h ⊢
  exact h

/-- The core as it was before an instruction that stalled: the stall flag is set, and the two timing
flags are whatever the instruction left in them. -/
def Abandoned (s t : State) : Prop :=
  t = { s.prepare with pageCrossed := t.pageCrossed, branchTaken := t.branchTaken, stalled := true }

section Step

variable {s : State}

lemma abandoned_of_kept (hcan : s.canStall = true) (hf : s.faulted = false) {tr : List CpuAsked}
    {t : State} (hh : s.hooked = true) (hk : view.Kept false s.prepare tr t)
    (hstall : anyStall tr = true) (herr : anyBusError tr = false) :
    Abandoned s { t with toRegs := t.saved } := by
  have h2 : t.stalled = true := by
    have h := hk.stalled
    rw [hstall, Bool.or_true] at h
    exact h
  have h3 : t.faulted = false := by
    have h := hk.faulted hh
    rw [herr, Bool.or_false, Bool.or_false] at h
    exact h.trans hf
  have ht := eq_of_rest (hk.rest hh h3)
  have hsaved : t.saved = s.toRegs := by
    rw [ht]
    simp [State.prepare, hcan]
  unfold Abandoned
  rw [ht]
  simp only [State.prepare, hcan, h2, h3, hf, if_true]

def replied (s : State) (addr : UInt32) : CpuMemResult × UInt8 → UInt8 × State
  | (.ok, val) => (val, s)
  | (.stall, _) => (0, { s with stalled := true })
  | (.busError, _) => (0, s.fault faultAccess addr)

lemma run_rd8 (hh : s.hooked = true) (addr : UInt16) :
    (rd8 addr).run s
      = .ask (.memRead addr.toUInt32) fun r => .done (replied s addr.toUInt32 r) := by
  rw [rd8, StateT.run_bind, StateT.run_get, pure_bind, if_pos hh]
  refine congrArg (Prog.ask _) (funext fun r => ?_)
  obtain ⟨res, v⟩ := r
  cases res <;> rfl

lemma run_fetch8 (hh : s.hooked = true) :
    fetch8.run s
      = .ask (.memRead s.pc.toUInt32) fun r =>
          .done ((replied s s.pc.toUInt32 r).1,
            { (replied s s.pc.toUInt32 r).2 with pc := (replied s s.pc.toUInt32 r).2.pc + 1 }) := by
  rw [fetch8, StateT.run_bind, StateT.run_get, pure_bind, StateT.run_bind, run_rd8 hh]
  rfl

def State.fetched (s : State) : State := { s.prepare with pc := s.pc + 1 }

/-- A BRK has read its opcode and the byte after. -/
def BrkTrace (s : State) (tr : List CpuAsked) : Prop :=
  ∃ op r, decode s.cmos op = .brk ∧
    tr = [⟨.memRead s.pc.toUInt32, (.ok, op)⟩, ⟨.memRead (s.pc + 1).toUInt32, r⟩]

/-- How a step ends: the flag says whether it stalled; and if it did, and met no bus error, the core
is where it was, unless it was a BRK. -/
def StepEnds (s : State) (tr : List CpuAsked) (out : Nat × State) : Prop :=
  out.2.stalled = anyStall tr ∧
    (anyStall tr = true → anyBusError tr = false →
      (out.1 = 0 ∧ Abandoned s out.2) ∨ BrkTrace s tr)

section Ends

variable (hh : s.hooked = true) (hcan : s.canStall = true) (hf : s.faulted = false)
  (hst : s.stalled = false)
include hh hcan hf hst

lemma finish_ends {tr : List CpuAsked} {t : State} (hk : view.Kept false s.prepare tr t) (op : UInt8) :
    ((finish op).run t).Always fun tr' out => StepEnds s (tr ++ tr') out := by
  have h2' : t.stalled = anyStall tr := by
    rw [show t.stalled = (s.stalled || anyStall tr) from hk.stalled, hst, Bool.false_or]
  have h3' : t.faulted = anyBusError tr := by
    rw [show t.faulted = (s.faulted || anyBusError tr || false) from hk.faulted hh, hf,
      Bool.false_or, Bool.or_false]
  rw [finish, StateT.run_bind, StateT.run_get, pure_bind]
  cases hbus : anyBusError tr with
  | true =>
    rw [if_pos (h3'.trans hbus)]
    refine ⟨by rw [List.append_nil]; exact h2', fun _ herr => ?_⟩
    rw [List.append_nil, hbus] at herr
    exact absurd herr (by decide)
  | false =>
    rw [if_neg (by rw [h3', hbus]; decide)]
    cases hstall : anyStall tr with
    | true =>
      rw [if_pos (h2'.trans hstall)]
      refine ⟨by rw [List.append_nil]; exact h2', fun _ _ => .inl ⟨rfl, ?_⟩⟩
      exact abandoned_of_kept hcan hf hh hk hstall hbus
    | false =>
      rw [if_neg (by rw [h2', hstall]; decide)]
      refine ⟨by rw [List.append_nil]; exact h2', fun hs => ?_⟩
      rw [List.append_nil, hstall] at hs
      exact absurd hs (by decide)

omit hcan hf hst in
lemma kept_fetched (op : UInt8) :
    view.Kept false s.prepare [⟨.memRead s.pc.toUInt32, (.ok, op)⟩]
      s.fetched := by
  have hk := kept_pieces.fetch8 s.prepare
  rw [run_fetch8 (show s.prepare.hooked = true from hh)] at hk
  exact hk (.ok, op)

lemma execute_ends (op : UInt8) :
    ((execute op (decode s.cmos op)).run s.fetched).Always
      fun tr out => StepEnds s (⟨.memRead s.pc.toUInt32, (.ok, op)⟩ :: tr) out := by
  have hperform : ∀ insn, ((perform insn >>= fun _ => finish op).run
      s.fetched).Always
        fun tr out => StepEnds s (⟨.memRead s.pc.toUInt32, (.ok, op)⟩ :: tr) out := by
    intro insn
    rw [StateT.run_bind]
    refine Prog.Always.bind (kept_pieces.perform insn _) fun tr out hk => ?_
    exact finish_ends hh hcan hf hst (view.composes.trans (kept_fetched hh op) hk) op
  cases hd : decode s.cmos op with
  | brk =>
    rw [execute, StateT.run_bind, run_fetch8 (show s.fetched.hooked = true from hh)]
    rintro ⟨res, v⟩
    have hbrk : BrkTrace s [⟨.memRead s.pc.toUInt32, (.ok, op)⟩,
        ⟨.memRead (s.pc + 1).toUInt32, (res, v)⟩] := ⟨op, (res, v), hd, rfl⟩
    cases res with
    | ok => exact ⟨hst, fun _ _ => .inr hbrk⟩
    | stall => exact ⟨rfl, fun _ _ => .inr hbrk⟩
    | busError => exact ⟨hst, fun _ _ => .inr hbrk⟩
  | stp => exact ⟨hst, fun hs => Bool.noConfusion hs⟩
  | illegal => exact ⟨hst, fun hs => Bool.noConfusion hs⟩
  | _ => exact hperform _

/-- **A step that stalls** without a bus error leaves the core as it was, unless it is a BRK. -/
theorem step_ends (hhalt : s.halted = false) : (step.run s).Always (StepEnds s) := by
  have hrun : ¬ (s.halted || s.faulted || s.stalled) = true := by simp [hhalt, hf, hst]
  rw [step, StateT.run_bind, StateT.run_get, pure_bind, if_neg hrun, StateT.run_bind,
    StateT.run_modify, pure_bind, StateT.run_bind, run_fetch8 (show s.prepare.hooked = true from hh)]
  rintro ⟨res, op⟩
  cases res with
  | ok =>
    show Prog.Always _ (StateT.run (get >>= _) _)
    rw [StateT.run_bind, StateT.run_get, pure_bind, if_neg (by simp [replied, State.prepare, hf]),
      if_neg (by simp [replied, State.prepare, hst])]
    exact execute_ends hh hcan hf hst op
  | stall =>
    show Prog.Always _ (StateT.run (get >>= _) _)
    rw [StateT.run_bind, StateT.run_get, pure_bind, if_neg (by simp [replied, State.prepare, hf]),
      if_pos (by simp [replied])]
    refine ⟨rfl, fun hs herr => .inl ⟨rfl, ?_⟩⟩
    have hk := kept_pieces.fetch8 s.prepare
    rw [run_fetch8 (show s.prepare.hooked = true from hh)] at hk
    exact abandoned_of_kept hcan hf hh (hk (.stall, op)) hs herr
  | busError =>
    show Prog.Always _ (StateT.run (get >>= _) _)
    rw [StateT.run_bind, StateT.run_get, pure_bind, if_pos (by simp [replied, State.fault])]
    exact ⟨hst, fun hs => Bool.noConfusion hs⟩

end Ends

end Step

end Cpu6502

end RpcEmu
