import RpcEmu.Cpu.Z80Abandon

/-!
# When the loop over the prefixes ends

`cpu_z80_step` consumes DD and FD bytes until it reads one that is neither.  The program counter wraps, and the loop
counts nothing: it ends exactly when such a byte is read (`step_ends_iff`).

* **RAM alone.**  A core whose RAM is the whole 64K, every byte of it a prefix, never gets to the end of its step.
  With less RAM the fetch comes to a fault.
* **A hook.**  What it answers may be anything, and a stall or a bus error gives the core a zero, which is no prefix.
-/

namespace RpcEmu

open Effects

namespace CpuZ80

/-! ## What is around the core -/

structure Surroundings (W : Type) where
  read : UInt32 → W → (CpuMemResult × UInt8) × W
  write : UInt32 → UInt8 → UInt64 → W → CpuMemResult × W
  ioIn : UInt8 → W → UInt8 × W
  ioOut : UInt8 → UInt8 → W → W

def Surroundings.handler {W : Type} (around : Surroundings W) :
    Handler CpuOp CpuOp.Reply ((UInt32 → UInt8) × W)
  | .memRead addr, (ram, w) => ((around.read addr w).1, ram, (around.read addr w).2)
  | .memWrite addr val cycles, (ram, w) =>
    ((around.write addr val cycles w).1, ram, (around.write addr val cycles w).2)
  | .ramRead addr, (ram, w) => (ram addr, ram, w)
  | .ramWrite addr val, (ram, w) => ((), fun a => if a = addr then val else ram a, w)
  | .ioIn port, (ram, w) => ((around.ioIn port w).1, ram, (around.ioIn port w).2)
  | .ioOut port val, (ram, w) => ((), ram, around.ioOut port val w)

section Step

variable {W : Type} (around : Surroundings W) (ram : UInt32 → UInt8)

/-- With fuel enough the step returns. -/
def StepEnds (s : State) (w : W) : Prop :=
  ∃ fuel, (((step fuel).run s).run around.handler (ram, w)).1.1.isSome = true

def nextByte (s : State) (w : W) : UInt8 :=
  if s.hooked then byteOf (around.read s.pc.toUInt32 w).1
  else if !s.ramPresent || s.ramSize ≤ s.pc.toUInt32 then 0
  else ram s.pc.toUInt32

def afterFetch (s : State) (w : W) : W :=
  if s.hooked then (around.read s.pc.toUInt32 w).2 else w

def fetchedByte (s : State) (w : W) : ℕ → UInt8
  | 0 => nextByte around ram s w
  | n + 1 => fetchedByte { s with pc := s.pc + 1 } (afterFetch around s w) n

lemma run_rd8_next (s : State) (w : W) :
    ∃ t, ((rd8 s.pc).run s).run around.handler (ram, w) = ((nextByte around ram s w, t), ram, afterFetch around s w) ∧
      (isPrefixByte (nextByte around ram s w) = true → t = s) := by
  cases hh : s.hooked with
  | true =>
    rw [run_rd8 hh, nextByte, afterFetch, if_pos hh, if_pos hh]
    refine ⟨_, rfl, ?_⟩
    intro hmore
    change replied s s.pc.toUInt32 (around.read s.pc.toUInt32 w).1 = s
    generalize (around.read s.pc.toUInt32 w).1 = reply at hmore ⊢
    obtain ⟨result, v⟩ := reply
    cases result with
    | ok => rfl
    | stall => exact absurd hmore (by decide : ¬ isPrefixByte 0 = true)
    | busError => exact absurd hmore (by decide : ¬ isPrefixByte 0 = true)
  | false =>
    rw [rd8, StateT.run_bind, StateT.run_get, pure_bind, nextByte, afterFetch]
    simp only [hh, Bool.false_eq_true, if_false]
    by_cases hout : (!s.ramPresent || decide (s.ramSize ≤ s.pc.toUInt32)) = true
    · rw [if_pos hout, if_pos hout]
      exact ⟨_, rfl, fun hmore => absurd hmore (by decide)⟩
    · rw [if_neg hout, if_neg hout]
      exact ⟨_, rfl, fun _ => rfl⟩

/-- **The loop ends at the first byte that is no prefix.** -/
lemma prefixLoop_isSome_iff {s : State} (hf : s.faulted = false) (fuel : ℕ) (pfx : UInt8) (w : W) :
    (((prefixLoop fuel pfx).run s).run around.handler (ram, w)).1.1.isSome = true ↔
      ∃ i < fuel, isPrefixByte (fetchedByte around ram s w i) = false := by
  induction fuel generalizing s pfx w with
  | zero =>
    constructor
    · intro h
      cases h
    · rintro ⟨i, hi, -⟩
      cases hi
  | succ fuel ih =>
    obtain ⟨t, hread, hsame⟩ := run_rd8_next around ram s w
    rw [prefixLoop, StateT.run_bind, StateT.run_get, pure_bind, StateT.run_bind, Prog.run_bind, hread]
    simp only [StateT.run_bind, StateT.run_get, pure_bind]
    cases hmore : isPrefixByte (nextByte around ram s w) with
    | false =>
      simp only [Bool.not_false, Bool.or_true, if_true]
      exact iff_of_true rfl ⟨0, Nat.succ_pos fuel, hmore⟩
    | true =>
      cases hsame hmore
      simp only [hf, Bool.not_true, Bool.or_false, Bool.false_eq_true, if_false]
      change (((prefixLoop fuel (nextByte around ram s w)).run { s with pc := s.pc + 1 }).run around.handler
        (ram, afterFetch around s w)).1.1.isSome = true ↔ _
      rw [ih (s := { s with pc := s.pc + 1 }) hf]
      constructor
      · rintro ⟨i, hi, hend⟩
        exact ⟨i + 1, Nat.succ_lt_succ hi, hend⟩
      · rintro ⟨i, hi, hend⟩
        cases i with
        | zero => exact absurd (hmore.symm.trans hend) (by decide)
        | succ i => exact ⟨i, Nat.lt_of_succ_lt_succ hi, hend⟩

lemma step_isSome_iff {s : State} (fuel : ℕ) (w : W) :
    (((step fuel).run s).run around.handler (ram, w)).1.1.isSome = true ↔
      (s.halted || s.faulted || s.stalled) = true ∨
        (((prefixLoop fuel 0).run s.prepare).run around.handler (ram, w)).1.1.isSome = true := by
  rw [step, StateT.run_bind, StateT.run_get, pure_bind]
  cases hidle : (s.halted || s.faulted || s.stalled) with
  | true => exact iff_of_true rfl (.inl rfl)
  | false =>
    simp only [Bool.false_eq_true, if_false, false_or]
    rw [StateT.run_bind, StateT.run_modify, pure_bind, StateT.run_bind, Prog.run_bind]
    generalize ((prefixLoop fuel 0).run s.prepare).run around.handler (ram, w) = result
    obtain ⟨⟨found, t⟩, world⟩ := result
    cases found with
    | none => exact iff_of_false Bool.false_ne_true Bool.false_ne_true
    | some bytes =>
      refine iff_of_true ?_ rfl
      simp only [StateT.run_bind, Prog.run_bind]
      rfl

lemma stepEnds_iff_fetched {s : State} (w : W) :
    StepEnds around ram s w ↔
      (s.halted || s.faulted || s.stalled) = true ∨
        ∃ i, isPrefixByte (fetchedByte around ram s.prepare w i) = false := by
  simp only [StepEnds, step_isSome_iff]
  by_cases hidle : (s.halted || s.faulted || s.stalled) = true
  · exact iff_of_true ⟨0, .inl hidle⟩ (.inl hidle)
  · have hf : s.prepare.faulted = false := by
      rw [Bool.or_eq_true, Bool.or_eq_true, not_or, not_or] at hidle
      exact Bool.eq_false_of_not_eq_true hidle.1.2
    rw [Bool.not_eq_true] at hidle
    simp only [hidle, Bool.false_eq_true, false_or, prefixLoop_isSome_iff around ram hf]
    constructor
    · rintro ⟨fuel, i, -, hend⟩
      exact ⟨i, hend⟩
    · rintro ⟨i, hend⟩
      exact ⟨i + 1, i, Nat.lt_succ_self i, hend⟩

/-! ## The bytes themselves -/

/-- What the hook answers to the reads at `pc`, `pc + 1` and so on. -/
def Surroundings.answer (pc : UInt16) (w : W) : ℕ → CpuMemResult × UInt8
  | 0 => (around.read pc.toUInt32 w).1
  | n + 1 => answer (pc + 1) (around.read pc.toUInt32 w).2 n

def isPrefixAnswer : CpuMemResult × UInt8 → Bool
  | (.ok, b) => isPrefixByte b
  | (.stall, _) => false
  | (.busError, _) => false

lemma isPrefixByte_byteOf (reply : CpuMemResult × UInt8) : isPrefixByte (byteOf reply) = isPrefixAnswer reply := by
  obtain ⟨result, b⟩ := reply
  cases result <;> rfl

lemma fetchedByte_hook {s : State} (hh : s.hooked = true) (w : W) (n : ℕ) :
    fetchedByte around ram s w n = byteOf (around.answer s.pc w n) := by
  induction n generalizing s w with
  | zero => rw [fetchedByte, nextByte, if_pos hh, Surroundings.answer]
  | succ n ih => rw [fetchedByte, ih (s := { s with pc := s.pc + 1 }) hh, afterFetch, if_pos hh, Surroundings.answer]

lemma fetchedByte_ram {s : State} (hh : s.hooked = false) (w : W) (n : ℕ) :
    fetchedByte around ram s w n =
      if !s.ramPresent || s.ramSize ≤ (s.pc + UInt16.ofNat n).toUInt32 then 0
      else ram (s.pc + UInt16.ofNat n).toUInt32 := by
  induction n generalizing s w with
  | zero => simp [fetchedByte, nextByte, hh]
  | succ n ih =>
    have hpc : s.pc + 1 + UInt16.ofNat n = s.pc + UInt16.ofNat (n + 1) := by
      rw [Nat.add_comm n 1, UInt16.ofNat_add, UInt16.add_assoc]
      rfl
    rw [fetchedByte, ih (s := { s with pc := s.pc + 1 }) hh]
    simp only [hpc]

/-- Every byte of the memory is a prefix. -/
def AllPrefixes (s : State) : Prop :=
  s.ramPresent = true ∧ 65536 ≤ s.ramSize.toNat ∧ ∀ a : UInt16, isPrefixByte (ram a.toUInt32) = true

lemma exists_fetched_ram_iff {s : State} (hh : s.hooked = false) (w : W) :
    (∃ i, isPrefixByte (fetchedByte around ram s w i) = false) ↔ ¬ AllPrefixes ram s := by
  simp only [fetchedByte_ram around ram hh]
  constructor
  · rintro ⟨i, hend⟩ ⟨hpresent, hsize, hall⟩
    have hin : ¬ s.ramSize ≤ (s.pc + UInt16.ofNat i).toUInt32 := by
      rw [UInt32.le_iff_toNat_le, UInt16.toNat_toUInt32]
      have := (s.pc + UInt16.ofNat i).toNat_lt
      omega
    simp only [hpresent, hin, Bool.not_true, decide_false, Bool.or_false, Bool.false_eq_true, if_false] at hend
    exact absurd ((hall _).symm.trans hend) (by decide)
  · intro hnot
    by_contra hnever
    rw [not_exists] at hnever
    -- every address of the 64K is one the program counter comes to
    have hat : ∀ a : UInt16, ¬ (!s.ramPresent || decide (s.ramSize ≤ a.toUInt32)) = true ∧
        isPrefixByte (ram a.toUInt32) = true := by
      intro a
      have h := hnever (a - s.pc).toNat
      rw [UInt16.ofNat_toNat, UInt16.add_comm, UInt16.sub_add_cancel] at h
      by_cases hout : (!s.ramPresent || decide (s.ramSize ≤ a.toUInt32)) = true
      · rw [if_pos hout] at h
        exact absurd rfl h
      · rw [if_neg hout] at h
        exact ⟨hout, Bool.eq_true_of_not_eq_false h⟩
    have hlast := (hat 65535).1
    simp only [Bool.or_eq_true, Bool.not_eq_true', decide_eq_true_eq, not_or, Bool.not_eq_false,
      UInt32.le_iff_toNat_le, UInt16.toNat_toUInt32] at hlast
    refine hnot ⟨hlast.1, ?_, fun a => (hat a).2⟩
    have : (65535 : UInt16).toNat = 65535 := rfl
    omega

/-- **When a step ends.**  A core that is idle does nothing.  One with a hook ends its step when the hook answers
something other than a prefix, and one with RAM alone unless that is 64K of prefixes. -/
theorem step_ends_iff (s : State) (w : W) :
    StepEnds around ram s w ↔
      (s.halted || s.faulted || s.stalled) = true ∨
        if s.hooked then ∃ i, isPrefixAnswer (around.answer s.pc w i) = false else ¬ AllPrefixes ram s := by
  rw [stepEnds_iff_fetched]
  refine or_congr_right ?_
  cases hh : s.hooked with
  | true =>
    simp only [if_true, fetchedByte_hook around ram (s := s.prepare) hh, isPrefixByte_byteOf]
    rfl
  | false =>
    rw [exists_fetched_ram_iff around ram (s := s.prepare) hh]
    rfl

end Step

def nothing : Surroundings Unit where
  read := fun _ w => ((.busError, 0), w)
  write := fun _ _ _ w => (.busError, w)
  ioIn := fun _ w => (0xff, w)
  ioOut := fun _ _ w => w

theorem not_step_always_ends : ¬ StepEnds nothing (fun _ => 0xdd) (init true 65536 false) () := by
  rw [stepEnds_iff_fetched, not_or]
  refine ⟨by decide, ?_⟩
  rw [exists_fetched_ram_iff nothing _ rfl, not_not]
  exact ⟨rfl, Nat.le_refl _, fun _ => rfl⟩

end CpuZ80

end RpcEmu
