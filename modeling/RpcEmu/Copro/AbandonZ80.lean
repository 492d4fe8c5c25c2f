import RpcEmu.Copro.RunOn
import RpcEmu.Cpu.Z80Abandon

/-!
# An abandoned Z80 instruction leaves no trace

On the card, a Z80 step that stalls should leave nothing behind: no register, no byte of card RAM, no
entry in the write log; and the bus should have the access that stalled waiting.  `NoTrace` says so for
an instruction that had written nothing yet when it stalled.  Nothing in the decode looks at the stall, so
it all rests on the accesses the rest of the instruction makes, run with a zero for the byte it did not get:
`noTrace_of_runsOnHarmlessly` proves it **where they are harmless** (`RunsOnHarmlessly`).

It fails for the block moves, the first example a guest would meet: LDIR from a stalling address stores
the zero (`block_move_leaves_trace`).
-/

namespace RpcEmu

open Effects

/-- The card's RAM, its control area and the pointers and count of its write log are the same. -/
structure SameMemory (bus bus' : CoproBus) : Prop where
  ram : bus'.ram = bus.ram
  ctl : bus'.ctl = bus.ctl
  logHead : bus'.logHead = bus.logHead
  logTail : bus'.logTail = bus.logTail
  logDropped : bus'.logDropped = bus.logDropped

/-- What a run asked before its first stall, with the replies. -/
def beforeStall (tr : List CpuAsked) : List CpuAsked := tr.takeWhile fun e => !e.1.stalls e.2

namespace CpuZ80

/-- What a step should leave that stalled at the access `x`. -/
structure Untouched (s : State) (env : CoprocEnv) (x : BusAccess) (t : State) (env' : CoprocEnv) :
    Prop where
  regs : t.toRegs = s.toRegs
  halted : t.halted = s.halted
  faulted : t.faulted = s.faulted
  cycles : t.cycles = s.cycles
  memory : SameMemory env.bus env'.bus
  waits : env'.bus.handshake.WaitsFor x

/-- **No trace**: a step that ends stalled, having written nothing before its first stall, leaves the
core and the card's memory as they were, and the bus waiting for that access. -/
def NoTrace (fuel : Nat) (s : State) (env : CoprocEnv) : Prop :=
  let p := (step fuel).run s
  let out := p.run coprocHandler env
  ∀ x, out.1.2.stalled = true → firstStall p env = some x →
    writesDone (beforeStall (p.trace coprocHandler env)) = [] →
    Untouched s env x out.1.2 out.2

/-- What an instruction that stalls at the access `x` may do. -/
structure RunsOnHarmlessly (fuel : Nat) (s : State) (env : CoprocEnv) (x : BusAccess) : Prop where
  /-- the registers were kept, or those kept for an earlier instruction are the same -/
  restorable : s.canStall = true ∨ s.saved = s.toRegs
  /-- nothing is written, no address is unmapped, and nothing stalls but `x` -/
  harmless : ∀ v ∈ ((step fuel).run s).visits coprocHandler env, Harmless x v.1 v.2
  /-- the bytes read, a zero for each that stalled, are an opcode the core has -/
  accepted : bytesRefused 0 (bytesRead (((step fuel).run s).trace coprocHandler env)) = false

section Step

variable {fuel : Nat} {s : State} {env : CoprocEnv} {x : BusAccess}

lemma running_of_firstStall (hf : firstStall ((step fuel).run s) env = some x) :
    s.hooked = true ∧ (s.halted || s.faulted || s.stalled) = false := by
  have hstall := anyStall_of_firstStall _ env hf
  constructor
  · by_contra hh
    have hnone := ((tracked_step fuel s).of_run coprocHandler env).unhooked (eq_false_of_ne_true hh)
    exact absurd (hnone.symm.trans hstall) (by decide)
  · by_contra hrun
    have hp : (step fuel).run s = .done (some 0, s) := by
      rw [step, StateT.run_bind, StateT.run_get, pure_bind, if_pos (eq_true_of_ne_false hrun)]
      rfl
    rw [hp] at hf
    exact absurd hf (by simp [firstStall])

lemma prepare_saved (h : s.canStall = true ∨ s.saved = s.toRegs) : s.prepare.saved = s.toRegs := by
  rw [State.prepare]
  cases hcan : s.canStall with
  | true => rfl
  | false => exact h.resolve_left (by rw [hcan]; decide)

lemma untouched_of_runsOn (hf : firstStall ((step fuel).run s) env = some x)
    (hr : RunsOnHarmlessly fuel s env x) :
    Untouched s env x (((step fuel).run s).run coprocHandler env).1.2
      (((step fuel).run s).run coprocHandler env).2 := by
  obtain ⟨hh, hrun⟩ := running_of_firstStall hf
  have hstall := anyStall_of_firstStall _ env hf
  have hends := (step_ends hh fuel hrun).of_run coprocHandler env hstall
  obtain ⟨hmapped, w, henv, hwait⟩ := run_harmless ((step fuel).run s) env hr.harmless
  rw [if_pos hstall] at hwait
  simp only [Bool.or_eq_false_iff] at hrun
  have hnf := hends.faulted.trans (Bool.or_eq_false_iff.mpr ⟨hmapped, hr.accepted⟩)
  obtain ⟨hregs, hhalted, hcycles⟩ := hends.kept hnf
  refine ⟨hregs.trans (prepare_saved hr.restorable), hhalted, hnf.trans hrun.1.2.symm, hcycles, ?_, ?_⟩
  · rw [henv]
    exact ⟨rfl, rfl, rfl, rfl, rfl⟩
  · rw [henv]
    exact hwait

end Step

/-- **An abandoned Z80 instruction leaves no trace** where whatever it does past a stall is harmless, for every
core state, memory, map and bus. -/
theorem noTrace_of_runsOnHarmlessly (fuel : Nat) (s : State) (env : CoprocEnv)
    (h : ∀ x, firstStall ((step fuel).run s) env = some x →
      writesDone (beforeStall (((step fuel).run s).trace coprocHandler env)) = [] →
      RunsOnHarmlessly fuel s env x) :
    NoTrace fuel s env :=
  fun x _ hf hw => untouched_of_runsOn hf (h x hf hw)

/-- A Z80 that is about to execute what is at 0x200. -/
def loadCore : State := { setMemHook (init true 0x10000 false) true with pc := 0x200 }

/-- The card: `LD HL,(0x1f)` at 0x200, and a region that stalls up to 0x1f. -/
def loadCard : CoprocEnv where
  bus := { stallRegionBus with
    ram := ((stallRegionBus.ram.set 0x200 0x2a).set 0x201 0x1f).set 0x20 0x77 }
  mboxTx := 0
  mboxRx := 0
  ports := fun _ => 0

theorem noTrace_of_runsOnHarmlessly_load :
    firstStall ((step 1).run loadCore) loadCard = some ⟨0x1f, false, false⟩ ∧ NoTrace 1 loadCore loadCard := by
  have hfirst : firstStall ((step 1).run loadCore) loadCard = some ⟨0x1f, false, false⟩ := by decide
  refine ⟨hfirst, noTrace_of_runsOnHarmlessly 1 loadCore loadCard fun x hx _ => ?_⟩
  obtain rfl : (⟨0x1f, false, false⟩ : BusAccess) = x := Option.some_inj.mp (hfirst.symm.trans hx)
  have hvisits : ((step 1).run loadCore).visits coprocHandler loadCard = [0x200, 0x200, 0x201, 0x202, 0x1f].map
      (fun addr => (loadCard, CpuOp.memRead addr)) ++
        [((coprocHandler (.memRead 0x1f) loadCard).2, .memRead 0x20)] := rfl
  refine ⟨.inl rfl, ?_, by decide⟩
  rw [hvisits]
  intro v hv
  simp only [List.map_cons, List.map_nil, List.mem_append, List.mem_cons, List.not_mem_nil, or_false] at hv
  rcases hv with (rfl | rfl | rfl | rfl | rfl) | rfl
  all_goals exact ⟨rfl, rfl, by decide⟩

def moveCore : State :=
  { setMemHook (init true 0x10000 false) true with
    pc := 0x200, l := 0x10, d := 0x03, c := 1, h := 0, e := 0, b := 0 }

/-- The card: `LDIR` at 0x200, and a byte that is not zero at 0x300. -/
def moveCard : CoprocEnv where
  bus := { stallRegionBus with
    ram := ((stallRegionBus.ram.set 0x200 0xed).set 0x201 0xb0).set 0x300 0x77 }
  mboxTx := 0
  mboxRx := 0
  ports := fun _ => 0

/-- **The gap.**  `LDIR` from a stalling address: the zero in place of the byte is stored. -/
theorem block_move_leaves_trace :
    ¬ ∀ (fuel : Nat) (s : State) (env : CoprocEnv), NoTrace fuel s env := by
  intro h
  have hu := h 1 moveCore moveCard ⟨0x10, false, false⟩ (by decide) (by decide) (by decide)
  have hbyte : ((((step 1).run moveCore).run coprocHandler moveCard).2.bus.ram 0x300) = 0 := by decide
  exact absurd ((congrFun hu.memory.ram 0x300).symm.trans hbyte) (by decide)

end CpuZ80

end RpcEmu
