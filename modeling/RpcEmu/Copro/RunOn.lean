import RpcEmu.Copro.Retry

/-!
# What a core leaves on the card when it runs on past a stall

A core whose access stalls does not stop there: it finishes the instruction with a zero in place of the
byte, and only then is the instruction abandoned.  Where the accesses it goes on to make are harmless
(`Harmless`), the card is left as it was but for its handshake, and waits for the access that stalled
(`run_harmless`).
-/

namespace RpcEmu

open Effects

variable {α : Type}

/-- What an access may do in an instruction that stalls at `x`: write nothing, meet no unmapped address, and
stall only where it is `x` again. -/
structure Harmless (x : BusAccess) (env : CoprocEnv) (op : CpuOp) : Prop where
  noWrite : op.writes (coprocHandler op env).1 = false
  mapped : op.errs (coprocHandler op env).1 = false
  sameStall : op.stalls (coprocHandler op env).1 = true → op.busAccess env.bus = some x

/-- The access waiting is the same, or none in both. -/
def Handshake.SameWait (h h' : Handshake) : Prop :=
  h'.stalled = h.stalled ∧ h'.waitAddr = h.waitAddr ∧ h'.waitIsWrite = h.waitIsWrite ∧
    h'.waitIsPort = h.waitIsPort

lemma coprocHandler_idle {op : CpuOp} {env : CoprocEnv} (hna : ¬ op.answered env.bus)
    (hs : op.stallsOn env.bus = false) (hw : op.writes (coprocHandler op env).1 = false) :
    (coprocHandler op env).2 = env := by
  cases op with
  | memRead addr =>
    rw [coprocHandler_memRead hna]
    split
    · rfl
    · rename_i hp
      have hst := readEffect_ne_stall hs hp
      revert hst
      cases (readEffect env.bus (bareAddr addr) (isPortAddr addr)).1 with
      | ok => exact fun _ => rfl
      | stall => exact fun hc => absurd rfl hc
      | busError => exact fun _ => rfl
  | memWrite addr val cycles =>
    rw [coprocHandler_memWrite hna] at hw ⊢
    split
    · rename_i hp
      rw [if_pos hp] at hw
      exact absurd hw (by simp [CpuOp.writes])
    · rename_i hp
      have hst := writeEffect_ne_stall hs hp
      rw [if_neg hp] at hw
      simp only [WriteEffect.apply]
      revert hst hw
      cases (writeEffect env.bus (bareAddr addr) (isPortAddr addr)).result with
      | ok => exact fun hw _ => absurd hw (by simp [CpuOp.writes, CoproBusResult.toCpuMem])
      | stall => exact fun _ hc => absurd rfl hc
      | busError => exact fun _ _ => rfl
  | ramRead addr => rfl
  | ramWrite addr val => exact Bool.noConfusion hw
  | ioIn port => rfl
  | ioOut port val => exact Bool.noConfusion hw

/-- **One access.**  Only the handshake changes; it waits for `x` if the access stalled, and else for what it
waited for before. -/
lemma Harmless.access {x : BusAccess} {op : CpuOp} {env : CoprocEnv} (h : Harmless x env op) :
    ∃ w, (coprocHandler op env).2 = env.setHandshake w ∧
      if op.stalls (coprocHandler op env).1 then w.WaitsFor x else env.bus.handshake.SameWait w := by
  by_cases ha : op.answered env.bus
  · -- an answer to an earlier access is taken
    rw [coprocHandler_of_answered ha]
    refine ⟨_, rfl, ?_⟩
    rw [okReply_not_stalls, if_neg Bool.false_ne_true]
    exact ⟨rfl, rfl, rfl, rfl⟩
  · have hst := stalls_iff_stallsOn ha
    cases hs : op.stallsOn env.bus with
    | true =>
      rw [hs] at hst
      obtain ⟨a, r, hacc, -, hh⟩ := coprocHandler_of_stalls ha hs
      obtain rfl : a = x := Option.some_inj.mp (hacc.symm.trans (h.sameStall hst))
      refine ⟨_, congrArg Prod.snd hh, ?_⟩
      rw [if_pos hst]
      exact ⟨rfl, rfl, rfl, rfl⟩
    | false =>
      rw [hs] at hst
      refine ⟨env.bus.handshake, coprocHandler_idle ha hs h.noWrite, ?_⟩
      rw [hst, if_neg Bool.false_ne_true]
      exact ⟨rfl, rfl, rfl, rfl⟩

/-- **A harmless run** leaves the card as it was but for the handshake, which waits for `x` if an access stalled. -/
theorem run_harmless {x : BusAccess} : ∀ (p : CpuProg α) (env : CoprocEnv),
    (∀ v ∈ p.visits coprocHandler env, Harmless x v.1 v.2) →
    anyBusError (p.trace coprocHandler env) = false ∧
    ∃ w, (p.run coprocHandler env).2 = env.setHandshake w ∧
      if anyStall (p.trace coprocHandler env) then w.WaitsFor x else env.bus.handshake.SameWait w
  | .done _, env, _ => ⟨rfl, env.bus.handshake, rfl, rfl, rfl, rfl, rfl⟩
  | .ask op k, env, hv => by
    have hop : Harmless x env op := hv (env, op) (by simp)
    obtain ⟨w, henv, hwait⟩ := hop.access
    obtain ⟨herr, w', hrun, hrest⟩ := run_harmless (k (coprocHandler op env).1) (coprocHandler op env).2
      fun v hm => hv v (List.mem_cons_of_mem _ hm)
    rw [henv] at hrest
    refine ⟨?_, w', ?_, ?_⟩
    · rw [Prog.trace_ask, anyBusError, List.any_cons, hop.mapped]
      exact herr
    · rw [Prog.run_ask, hrun, henv]
      rfl
    · rw [Prog.trace_ask, anyStall, List.any_cons, ← anyStall]
      rw [← henv] at hrest
      split at hrest
      next hlater =>
        rw [hlater, Bool.or_true, if_pos rfl]
        exact hrest
      next hlater =>
        -- no later stall: the handshake still waits for what it waits for after this access
        obtain ⟨h1, h2, h3, h4⟩ := hrest
        rw [eq_false_of_ne_true hlater, Bool.or_false]
        rw [henv] at h1 h2 h3 h4
        cases hs : op.stalls (coprocHandler op env).1 with
        | true =>
          rw [hs, if_pos rfl] at hwait
          exact ⟨h1.trans hwait.1, h2.trans hwait.2.1, h3.trans hwait.2.2.1, h4.trans hwait.2.2.2⟩
        | false =>
          rw [hs, if_neg Bool.false_ne_true] at hwait
          exact ⟨h1.trans hwait.1, h2.trans hwait.2.1, h3.trans hwait.2.2.1, h4.trans hwait.2.2.2⟩

end RpcEmu
