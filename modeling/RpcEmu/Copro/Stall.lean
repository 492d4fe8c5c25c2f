import RpcEmu.Copro.Answers
import RpcEmu.Copro.Card

/-!
# An access that stalls

What the card's hook does with one access of a core: it is answered, it stalls, or it is plain.
-/

namespace RpcEmu

open Effects

/-! ## The handshake of a card -/

def CoprocEnv.setHandshake (env : CoprocEnv) (h : Handshake) : CoprocEnv :=
  { env with bus := env.bus.setHandshake h }

@[simp] lemma CoprocEnv.setHandshake_self (env : CoprocEnv) :
    env.setHandshake env.bus.handshake = env := rfl

def Handshake.waitFor (h : Handshake) (a : BusAccess) (value : UInt32) : Handshake :=
  { h with stalled := true, waitAddr := a.addr, waitIsWrite := a.isWrite, waitIsPort := a.isPort,
           waitValue := value }

/-- The stall waits for this access. -/
def Handshake.WaitsFor (h : Handshake) (a : BusAccess) : Prop :=
  h.stalled = true ∧ h.waitAddr = a.addr ∧ h.waitIsWrite = a.isWrite ∧ h.waitIsPort = a.isPort

/-! ## One access -/

def stallRegion (bus : CoproBus) (addr : UInt32) (isPort : Bool) : Bool :=
  match coproBusRegion bus addr isPort with
  | none => false
  | some entry => coproRegionKind (regionFields bus entry).kind = .stall

lemma readEffect_stall_iff (bus : CoproBus) (addr : UInt32) (isPort : Bool) :
    (readEffect bus addr isPort).1 = .stall ↔ stallRegion bus addr isPort = true := by
  unfold readEffect stallRegion
  cases coproBusRegion bus addr isPort with
  | none => simp
  | some entry =>
    dsimp only
    cases coproRegionKind (regionFields bus entry).kind <;> simp

lemma writeEffect_stall_iff (bus : CoproBus) (addr : UInt32) (isPort : Bool) :
    (writeEffect bus addr isPort).result = .stall ↔ stallRegion bus addr isPort = true := by
  unfold writeEffect stallRegion
  cases coproBusRegion bus addr isPort with
  | none => simp
  | some entry =>
    dsimp only
    cases coproRegionKind (regionFields bus entry).kind <;> simp

namespace CpuOp

def busAccess (bus : CoproBus) : CpuOp → Option BusAccess
  | memRead addr =>
    if isCardPort bus addr then none else some ⟨bareAddr addr, false, isPortAddr addr⟩
  | memWrite addr _ _ =>
    if isCardPort bus addr then none else some ⟨bareAddr addr, true, isPortAddr addr⟩
  | ramRead _ => none
  | ramWrite _ _ => none
  | ioIn _ => none
  | ioOut _ _ => none

def waitValue : CpuOp → UInt32
  | memWrite _ val _ => val.toUInt32
  | memRead _ => 0
  | ramRead _ => 0
  | ramWrite _ _ => 0
  | ioIn _ => 0
  | ioOut _ _ => 0

def okReply (b : UInt8) : (op : CpuOp) → op.Reply
  | memRead _ => (.ok, b)
  | memWrite _ _ _ => .ok
  | ramRead _ => b
  | ramWrite _ _ => ()
  | ioIn _ => b
  | ioOut _ _ => ()

def stallsOn (bus : CoproBus) (op : CpuOp) : Bool :=
  match op.busAccess bus with
  | none => false
  | some a => stallRegion bus a.addr a.isPort

/-- The answer held is for one of the operation's accesses. -/
def answered (bus : CoproBus) (op : CpuOp) : Prop :=
  ∃ a ∈ op.busAccess bus, bus.answers a.addr a.isWrite

variable (bus : CoproBus) (h : Handshake) (op : CpuOp)

@[simp] lemma busAccess_setHandshake : op.busAccess (bus.setHandshake h) = op.busAccess bus := by
  cases op <;> simp [busAccess, isCardPort]

lemma not_answered_of_invalid {bus : CoproBus} {op : CpuOp} (hv : bus.answerValid = false) :
    ¬ op.answered bus := by
  rintro ⟨a, -, hans, -⟩
  exact absurd (hv.symm.trans hans) (by decide)

end CpuOp

section Handler

variable {env : CoprocEnv} {op : CpuOp}

lemma coprocHandler_memRead {addr : UInt32} (hna : ¬ CpuOp.answered env.bus (.memRead addr)) :
    coprocHandler (.memRead addr) env =
      if isCardPort env.bus addr then ((.ok, coprocIoIn env (bareAddr addr).toUInt8), env)
      else
        (((readEffect env.bus (bareAddr addr) (isPortAddr addr)).1.toCpuMem,
          (readEffect env.bus (bareAddr addr) (isPortAddr addr)).2),
          { env with
            bus := afterRead env.bus (bareAddr addr) (isPortAddr addr)
              (readEffect env.bus (bareAddr addr) (isPortAddr addr)).1 }) := by
  rw [coprocHandler, coprocHookRead]
  by_cases hp : isCardPort env.bus addr = true
  · rw [if_pos hp, if_pos hp]
  · have hno : ¬ env.bus.answers (bareAddr addr) false := fun h =>
      hna ⟨⟨bareAddr addr, false, isPortAddr addr⟩, by simp [CpuOp.busAccess, hp], h⟩
    rw [if_neg hp, if_neg hp, hookRead, coproBusRead_of_not_answers _ hno, decodedRead_eq]

lemma coprocHandler_memWrite {addr : UInt32} {val : UInt8} {cycles : UInt64}
    (hna : ¬ CpuOp.answered env.bus (.memWrite addr val cycles)) :
    coprocHandler (.memWrite addr val cycles) env =
      if isCardPort env.bus addr then (.ok, coprocIoOut env (bareAddr addr).toUInt8 val)
      else
        ((writeEffect env.bus (bareAddr addr) (isPortAddr addr)).result.toCpuMem,
          { env with
            bus := (writeEffect env.bus (bareAddr addr) (isPortAddr addr)).apply env.bus
              (bareAddr addr) (isPortAddr addr)
              (if env.bus.cycleSource then cycles.toUInt32 else 0) val }) := by
  rw [coprocHandler, coprocHookWrite]
  by_cases hp : isCardPort env.bus addr = true
  · rw [if_pos hp, if_pos hp]
  · have hno : ¬ env.bus.answers (bareAddr addr) true := fun h =>
      hna ⟨⟨bareAddr addr, true, isPortAddr addr⟩, by simp [CpuOp.busAccess, hp], h⟩
    rw [if_neg hp, if_neg hp, hookWrite, coproBusWrite_of_not_answers _ _ _ hno, decodedWrite_eq]

/-- **Answered**: the access takes the answer. -/
theorem coprocHandler_of_answered (h : op.answered env.bus) :
    coprocHandler op env
      = (op.okReply env.bus.answerValue.toUInt8,
          env.setHandshake { env.bus.handshake with answerValid := false }) := by
  obtain ⟨a, ha, hans⟩ := h
  cases op with
  | memRead addr =>
    by_cases hp : isCardPort env.bus addr = true
    · simp [CpuOp.busAccess, hp] at ha
    · simp only [CpuOp.busAccess, hp, Bool.false_eq_true, if_false, Option.mem_some_iff] at ha
      subst ha
      simp only [coprocHandler, coprocHookRead, hp, Bool.false_eq_true, if_false, hookRead,
        coproBusRead_of_answers _ hans, CoproBusResult.toCpuMem, CpuOp.okReply]
      rfl
  | memWrite addr val cycles =>
    by_cases hp : isCardPort env.bus addr = true
    · simp [CpuOp.busAccess, hp] at ha
    · simp only [CpuOp.busAccess, hp, Bool.false_eq_true, if_false, Option.mem_some_iff] at ha
      subst ha
      simp only [coprocHandler, coprocHookWrite, hp, Bool.false_eq_true, if_false, hookWrite,
        coproBusWrite_of_answers _ _ _ hans, CoproBusResult.toCpuMem, CpuOp.okReply]
      rfl
  | ramRead addr => simp [CpuOp.busAccess] at ha
  | ramWrite addr val => simp [CpuOp.busAccess] at ha
  | ioIn port => simp [CpuOp.busAccess] at ha
  | ioOut port val => simp [CpuOp.busAccess] at ha

/-- **Stalled**: the access is recorded and changes nothing else. -/
theorem coprocHandler_of_stalls (hna : ¬ op.answered env.bus) (hs : op.stallsOn env.bus = true) :
    ∃ a r, op.busAccess env.bus = some a ∧ op.stalls r = true ∧
      coprocHandler op env
        = (r, env.setHandshake (env.bus.handshake.waitFor a op.waitValue)) := by
  cases op with
  | memRead addr =>
    by_cases hp : isCardPort env.bus addr = true
    · simp [CpuOp.stallsOn, CpuOp.busAccess, hp] at hs
    · have hacc : CpuOp.busAccess env.bus (.memRead addr)
          = some ⟨bareAddr addr, false, isPortAddr addr⟩ := by simp [CpuOp.busAccess, hp]
      simp only [CpuOp.stallsOn, hacc] at hs
      have hst := (readEffect_stall_iff env.bus _ _).mpr hs
      refine ⟨_, (.stall, (readEffect env.bus (bareAddr addr) (isPortAddr addr)).2), hacc, rfl, ?_⟩
      rw [coprocHandler_memRead hna, if_neg hp, hst]
      rfl
  | memWrite addr val cycles =>
    by_cases hp : isCardPort env.bus addr = true
    · simp [CpuOp.stallsOn, CpuOp.busAccess, hp] at hs
    · have hacc : CpuOp.busAccess env.bus (.memWrite addr val cycles)
          = some ⟨bareAddr addr, true, isPortAddr addr⟩ := by simp [CpuOp.busAccess, hp]
      simp only [CpuOp.stallsOn, hacc] at hs
      have hst := (writeEffect_stall_iff env.bus _ _).mpr hs
      refine ⟨_, .stall, hacc, rfl, ?_⟩
      rw [coprocHandler_memWrite hna, if_neg hp, WriteEffect.apply, hst]
      rfl
  | ramRead addr => simp [CpuOp.stallsOn, CpuOp.busAccess] at hs
  | ramWrite addr val => simp [CpuOp.stallsOn, CpuOp.busAccess] at hs
  | ioIn port => simp [CpuOp.stallsOn, CpuOp.busAccess] at hs
  | ioOut port val => simp [CpuOp.stallsOn, CpuOp.busAccess] at hs

lemma readEffect_ne_stall {addr : UInt32} (hs : CpuOp.stallsOn env.bus (.memRead addr) = false)
    (hp : ¬ isCardPort env.bus addr = true) :
    (readEffect env.bus (bareAddr addr) (isPortAddr addr)).1 ≠ .stall := by
  rw [ne_eq, readEffect_stall_iff]
  simpa [CpuOp.stallsOn, CpuOp.busAccess, hp] using hs

lemma writeEffect_ne_stall {addr : UInt32} {val : UInt8} {cycles : UInt64}
    (hs : CpuOp.stallsOn env.bus (.memWrite addr val cycles) = false)
    (hp : ¬ isCardPort env.bus addr = true) :
    (writeEffect env.bus (bareAddr addr) (isPortAddr addr)).result ≠ .stall := by
  rw [ne_eq, writeEffect_stall_iff]
  simpa [CpuOp.stallsOn, CpuOp.busAccess, hp] using hs

/-- **Plain**: the access does what the decode says, and the handshake is neither read nor
written. -/
theorem coprocHandler_of_plain (hna : ¬ op.answered env.bus) (hs : op.stallsOn env.bus = false)
    (h : Handshake) (hna' : ¬ op.answered (env.bus.setHandshake h)) :
    coprocHandler op (env.setHandshake h)
      = ((coprocHandler op env).1, (coprocHandler op env).2.setHandshake h) := by
  cases op with
  | memRead addr =>
    have hcp : isCardPort (env.setHandshake h).bus addr = isCardPort env.bus addr := by
      simp [isCardPort, CoprocEnv.setHandshake]
    rw [coprocHandler_memRead hna, coprocHandler_memRead hna', hcp]
    by_cases hp : isCardPort env.bus addr = true
    · rw [if_pos hp, if_pos hp]
      rfl
    · have hst := readEffect_ne_stall hs hp
      rw [if_neg hp, if_neg hp, CoprocEnv.setHandshake, readEffect_setHandshake]
      revert hst
      cases (readEffect env.bus (bareAddr addr) (isPortAddr addr)).1 with
      | ok => exact fun _ => rfl
      | stall => exact fun hc => absurd rfl hc
      | busError => exact fun _ => rfl
  | memWrite addr val cycles =>
    have hcp : isCardPort (env.setHandshake h).bus addr = isCardPort env.bus addr := by
      simp [isCardPort, CoprocEnv.setHandshake]
    rw [coprocHandler_memWrite hna, coprocHandler_memWrite hna', hcp]
    by_cases hp : isCardPort env.bus addr = true
    · rw [if_pos hp, if_pos hp]
      rfl
    · rw [if_neg hp, if_neg hp, CoprocEnv.setHandshake, writeEffect_setHandshake,
        WriteEffect.apply_setHandshake (writeEffect_ne_stall hs hp)]
      rfl
  | ramRead addr => rfl
  | ramWrite addr val => rfl
  | ioIn port => rfl
  | ioOut port val => rfl

lemma coprocHandler_handshake (hna : ¬ op.answered env.bus) (hs : op.stallsOn env.bus = false) :
    (coprocHandler op env).2.bus.handshake = env.bus.handshake := by
  have h := coprocHandler_of_plain hna hs env.bus.handshake (by simpa using hna)
  rw [CoprocEnv.setHandshake_self] at h
  rw [h]
  rfl

lemma CoproBusResult.toCpuMem_isStall (r : CoproBusResult) :
    r.toCpuMem.isStall = true ↔ r = .stall := by
  cases r <;> simp [CoproBusResult.toCpuMem, CpuMemResult.isStall]

lemma stalls_iff_stallsOn (hna : ¬ op.answered env.bus) :
    op.stalls (coprocHandler op env).1 = op.stallsOn env.bus := by
  cases hs : op.stallsOn env.bus with
  | true =>
    obtain ⟨a, r, -, hr, hh⟩ := coprocHandler_of_stalls hna hs
    rw [hh]
    exact hr
  | false =>
    cases op with
    | memRead addr =>
      rw [coprocHandler_memRead hna]
      split
      · rfl
      · rename_i hp
        exact Bool.eq_false_iff.mpr fun h =>
          readEffect_ne_stall hs hp ((CoproBusResult.toCpuMem_isStall _).mp h)
    | memWrite addr val cycles =>
      rw [coprocHandler_memWrite hna]
      split
      · rfl
      · rename_i hp
        exact Bool.eq_false_iff.mpr fun h =>
          writeEffect_ne_stall hs hp ((CoproBusResult.toCpuMem_isStall _).mp h)
    | ramRead addr => rfl
    | ramWrite addr val => rfl
    | ioIn port => rfl
    | ioOut port val => rfl

end Handler

end RpcEmu
