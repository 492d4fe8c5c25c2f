import Mathlib.Data.Nat.Bitwise
import RpcEmu.Copro.BusFacts
import RpcEmu.Cpu.Rv32i

/-!
# A card with no map

With no regions the decode has nothing to say, and what a core reaches through the card's hook should
be the card's RAM and nothing else: one instruction through the hook is one instruction over the
same RAM with no hook.

**The gap.**  The hook reads bit 16 of an address as "this is a port".  That is the 6502's and the
Z80's convention, with their 64K; an RV32I core forms 32-bit addresses, and half of its RAM is
then the card's mailbox and port latch.  `flatMemory_iff` says exactly which instructions still
run as over flat memory, whatever the mailbox and the latch hold.

The latch is `cpu.z80.ports` whichever core is fitted.  Where those bytes lie beside an RV32I core's
own registers is a matter of memory layout and is not modelled: the latch is kept apart here.
-/

namespace RpcEmu

open Bytes Effects

/-! ## Bit 16 of an address -/

lemma isPortAddr_iff (addr : UInt32) : isPortAddr addr = true ↔ addr.toNat / 65536 % 2 = 1 := by
  have h : (addr &&& cpuMemPort).toNat = (addr.toNat.testBit 16).toNat * 65536 := by
    rw [UInt32.toNat_and]
    exact Nat.and_two_pow addr.toNat 16
  rw [isPortAddr, decide_eq_true_eq, ne_eq, ← UInt32.toNat_inj, h, Nat.testBit_eq_decide_div_mod_eq]
  by_cases hb : addr.toNat / 2 ^ 16 % 2 = 1 <;> simp_all

lemma bareAddr_of_not_port {addr : UInt32} (h : isPortAddr addr = false) : bareAddr addr = addr := by
  have hclear : ∀ v m : BitVec 32, v &&& m = 0#32 → v &&& ~~~m = v := by
    intro v m hv
    ext i hi
    have hbit : (v[i] && m[i]) = false := by
      rw [← BitVec.getElem_and]
      simp only [hv, BitVec.getElem_zero]
    rw [BitVec.getElem_and, BitVec.getElem_not]
    revert hbit
    cases v[i] <;> simp
  simp only [isPortAddr, decide_eq_false_iff_not, not_not] at h
  exact UInt32.eq_of_toBitVec_eq (hclear _ _ (congrArg UInt32.toBitVec h))

lemma isPortAddr_add {addr : UInt32} {n : Nat} (hn : n = 1 ∨ n = 2 ∨ n = 4)
    (ha : addr.toNat % n = 0) {i : Nat} (hi : i < n) :
    isPortAddr (addr + UInt32.ofNat i) = isPortAddr addr := by
  have hlt := addr.toNat_lt
  have hadd : (addr + UInt32.ofNat i).toNat = addr.toNat + i := by
    rw [UInt32.toNat_add, UInt32.toNat_ofNat']
    rcases hn with rfl | rfl | rfl <;> omega
  rw [Bool.eq_iff_iff, isPortAddr_iff, isPortAddr_iff, hadd]
  rcases hn with rfl | rfl | rfl <;> omega

/-! ## The hook -/

def CoprocEnv.unanswered (env : CoprocEnv) : CoprocEnv :=
  { env with bus := { env.bus with answerValid := false } }

def hookedRead (env : CoprocEnv) (addr : UInt32) : UInt8 × CoprocEnv :=
  if isPortAddr addr then (coprocIoIn env (bareAddr addr).toUInt8, env)
  else if env.bus.answers addr false then (env.bus.answerValue.toUInt8, env.unanswered)
  else (ramRead env.bus addr, env)

def hookedWrite (env : CoprocEnv) (addr : UInt32) (val : UInt8) : CoprocEnv :=
  if isPortAddr addr then coprocIoOut env (bareAddr addr).toUInt8 val
  else if env.bus.answers addr true then env.unanswered
  else { env with bus := ramWrite env.bus addr val }

section NoMap

variable {env : CoprocEnv} (hmap : env.bus.mapCount = 0)
include hmap

lemma coproBusRegion_of_noMap (addr : UInt32) (isPort : Bool) :
    coproBusRegion env.bus addr isPort = none := by
  simp [coproBusRegion, hmap]

lemma coprocHookRead_of_noMap (addr : UInt32) :
    coprocHookRead env addr = ((.ok, (hookedRead env addr).1), (hookedRead env addr).2) := by
  have hnone := coproBusRegion_of_noMap hmap
  cases hp : isPortAddr addr with
  | true => simp [coprocHookRead, isCardPort, hookedRead, hnone, hp]
  | false =>
    have hbare := bareAddr_of_not_port hp
    by_cases hans : env.bus.answers addr false
    · simp [coprocHookRead, isCardPort, hookedRead, hookRead, hp, hbare,
        coproBusRead_of_answers _ hans, hans, CoproBusResult.toCpuMem, CoprocEnv.unanswered]
    · simp [coprocHookRead, isCardPort, hookedRead, hookRead, hp, hbare,
        coproBusRead_of_not_answers _ hans, decodedRead, hnone, hans, CoproBusResult.toCpuMem]

lemma coprocHookWrite_of_noMap (addr : UInt32) (val : UInt8) (cycles : UInt64) :
    coprocHookWrite env addr val cycles = (.ok, hookedWrite env addr val) := by
  have hnone := coproBusRegion_of_noMap hmap
  cases hp : isPortAddr addr with
  | true => simp [coprocHookWrite, isCardPort, hookedWrite, hnone, hp]
  | false =>
    have hbare := bareAddr_of_not_port hp
    by_cases hans : env.bus.answers addr true
    · simp [coprocHookWrite, isCardPort, hookedWrite, hookWrite, hp, hbare,
        coproBusWrite_of_answers _ _ _ hans, hans, CoproBusResult.toCpuMem, CoprocEnv.unanswered]
    · simp [coprocHookWrite, isCardPort, hookedWrite, hookWrite, hp, hbare,
        coproBusWrite_of_not_answers _ _ _ hans, decodedWrite, hnone, hans,
        CoproBusResult.toCpuMem]

end NoMap

/-! ## Several bytes -/

def Rv32iWidth.addrs (addr : UInt32) : Rv32iWidth → List UInt32
  | byte => [addr]
  | half => [addr, addr + 1]
  | word => [addr, addr + 1, addr + 2, addr + 3]

def Rv32iWidth.assemble : Rv32iWidth → List UInt8 → UInt32
  | byte, [b0] => b0.toUInt32
  | half, [b0, b1] => b0.toUInt32 ||| (b1.toUInt32 <<< 8)
  | word, [b0, b1, b2, b3] =>
    b0.toUInt32 ||| (b1.toUInt32 <<< 8) ||| (b2.toUInt32 <<< 16) ||| (b3.toUInt32 <<< 24)
  | _, _ => 0

def Rv32iWidth.stores (addr val : UInt32) : Rv32iWidth → List (UInt32 × UInt8)
  | byte => [(addr, val.toUInt8)]
  | half => [(addr, val.toUInt8), (addr + 1, (val >>> 8).toUInt8)]
  | word => [(addr, val.toUInt8), (addr + 1, (val >>> 8).toUInt8),
      (addr + 2, (val >>> 16).toUInt8), (addr + 3, (val >>> 24).toUInt8)]

def hookedReads (env : CoprocEnv) : List UInt32 → List UInt8 × CoprocEnv
  | [] => ([], env)
  | a :: as =>
    let rest := hookedReads (hookedRead env a).2 as
    ((hookedRead env a).1 :: rest.1, rest.2)

def hookedWrites (env : CoprocEnv) (l : List (UInt32 × UInt8)) : CoprocEnv :=
  l.foldl (fun env p => hookedWrite env p.1 p.2) env

def flatWrites (ram : Block) (l : List (UInt32 × UInt8)) : Block :=
  l.foldl (fun ram p => ram.set p.1 p.2) ram

@[simp] lemma Rv32iWidth.stores_addrs (addr val : UInt32) (w : Rv32iWidth) :
    (w.stores addr val).map Prod.fst = w.addrs addr := by
  cases w <;> rfl

def CoprocEnv.setRam (env : CoprocEnv) (ram : Block) : CoprocEnv :=
  { env with bus := { env.bus with ram := ram } }

@[simp] lemma hookedRead_mapCount (env : CoprocEnv) (a : UInt32) :
    (hookedRead env a).2.bus.mapCount = env.bus.mapCount := by
  unfold hookedRead
  split_ifs <;> rfl

@[simp] lemma hookedWrite_mapCount (env : CoprocEnv) (a : UInt32) (v : UInt8) :
    (hookedWrite env a v).bus.mapCount = env.bus.mapCount := by
  unfold hookedWrite
  split_ifs
  · rfl
  · rfl
  · simp only [ramWrite]
    split_ifs <;> rfl

section Playing

variable {s : Rv32iState} {env : CoprocEnv}

lemma play_load8_flat (hh : s.hooked = false) (a : UInt32) :
    play coprocHandler (load8 a) s env = ((env.bus.ram a, s), env) := by
  rw [load8, play_get_bind, if_neg (by simp [hh])]
  rfl

lemma play_store8_flat (hh : s.hooked = false) (a : UInt32) (v : UInt8) :
    play coprocHandler (store8 a v) s env = (((), s), env.setRam (env.bus.ram.set a v)) := by
  rw [store8, play_get_bind, if_neg (by simp [hh])]
  rfl

lemma play_load8_hooked (hh : s.hooked = true) (hmap : env.bus.mapCount = 0) (a : UInt32) :
    play coprocHandler (load8 a) s env = (((hookedRead env a).1, s), (hookedRead env a).2) := by
  have hread : coprocHandler (.memRead a) env
      = ((.ok, (hookedRead env a).1), (hookedRead env a).2) := coprocHookRead_of_noMap hmap a
  rw [load8, play_get_bind, if_pos hh]
  simp only [access, play_bind, play_lift, hread, play_pure]

lemma play_store8_hooked (hh : s.hooked = true) (hmap : env.bus.mapCount = 0) (a : UInt32)
    (v : UInt8) :
    play coprocHandler (store8 a v) s env = (((), s), hookedWrite env a v) := by
  have hwrite : coprocHandler (.memWrite a v s.cycles) env = (.ok, hookedWrite env a v) :=
    coprocHookWrite_of_noMap hmap a v s.cycles
  rw [store8, play_get_bind, if_pos hh]
  simp only [access, play_bind, play_lift, hwrite, play_pure]

lemma play_loadWidth_flat (hh : s.hooked = false) (a : UInt32) (w : Rv32iWidth) :
    play coprocHandler (loadWidth a w) s env
      = ((w.assemble ((w.addrs a).map env.bus.ram), s), env) := by
  cases w <;>
    simp only [loadWidth, play_bind, play_load8_flat hh, play_pure, Rv32iWidth.addrs, List.map,
      Rv32iWidth.assemble]

lemma play_storeWidth_flat (hh : s.hooked = false) (a val : UInt32) (w : Rv32iWidth) :
    play coprocHandler (storeWidth a val w) s env
      = (((), s), env.setRam (flatWrites env.bus.ram (w.stores a val))) := by
  cases w <;> simp only [storeWidth, play_bind, play_store8_flat hh] <;> rfl

lemma play_loadWidth_hooked (hh : s.hooked = true) (hmap : env.bus.mapCount = 0) (a : UInt32)
    (w : Rv32iWidth) :
    play coprocHandler (loadWidth a w) s env
      = ((w.assemble (hookedReads env (w.addrs a)).1, s), (hookedReads env (w.addrs a)).2) := by
  cases w <;>
    simp only [loadWidth, play_bind, play_load8_hooked hh, hookedRead_mapCount, hmap, play_pure,
      Rv32iWidth.addrs, hookedReads, Rv32iWidth.assemble]

lemma play_storeWidth_hooked (hh : s.hooked = true) (hmap : env.bus.mapCount = 0) (a val : UInt32)
    (w : Rv32iWidth) :
    play coprocHandler (storeWidth a val w) s env
      = (((), s), hookedWrites env (w.stores a val)) := by
  cases w <;>
    simp only [storeWidth, play_bind, play_store8_hooked hh, hookedWrite_mapCount, hmap,
      Rv32iWidth.stores, hookedWrites, List.foldl]

end Playing

/-! ## Accesses that meet RAM, a port or the answer -/

section Bytes

variable {env : CoprocEnv}

/-- No map, and no answer held. -/
def CoprocEnv.Spent (env : CoprocEnv) : Prop :=
  env.bus.mapCount = 0 ∧ env.bus.answerValid = false

lemma CoprocEnv.Spent.not_answers (h : env.Spent) (a : UInt32) (isWrite : Bool) :
    ¬ env.bus.answers a isWrite := by
  rintro ⟨hv, -, -⟩
  exact absurd (h.2.symm.trans hv) (by decide)

lemma CoprocEnv.Spent.read (h : env.Spent) (a : UInt32) : (hookedRead env a).2.Spent := by
  simp only [hookedRead, h.not_answers, if_false]
  split_ifs <;> exact h

lemma CoprocEnv.Spent.write (h : env.Spent) (a : UInt32) (v : UInt8) :
    (hookedWrite env a v).Spent := by
  refine ⟨by rw [hookedWrite_mapCount]; exact h.1, ?_⟩
  simp only [hookedWrite, h.not_answers, if_false, ramWrite]
  split_ifs <;> exact h.2

lemma spent_of_handler (op : CpuOp) (h : env.Spent) : (coprocHandler op env).2.Spent := by
  cases op with
  | memRead a =>
    show (coprocHookRead env a).2.Spent
    rw [coprocHookRead_of_noMap h.1]
    exact h.read a
  | memWrite a v cycles =>
    show (coprocHookWrite env a v cycles).2.Spent
    rw [coprocHookWrite_of_noMap h.1]
    exact h.write a v
  | ramRead a => exact h
  | ramWrite a v => exact h
  | ioIn port => exact h
  | ioOut port v => exact h

lemma spent_of_play {α : Type} (x : Exec Rv32iState α) (s : Rv32iState) (h : env.Spent) :
    (play coprocHandler x s env).2.Spent :=
  Prog.run_inv (fun op _ he => spent_of_handler op he) _ _ h

lemma mod_ramSize {a size : UInt32} (ha : a < size) : size ≠ 0 ∧ a % size = a := by
  refine ⟨?_, UInt32.mod_eq_of_lt ha⟩
  rintro rfl
  exact absurd ha UInt32.not_lt_zero

/-! ### Reads -/

lemma ramRead_of_lt {a : UInt32} (hram : env.bus.ramPresent = true) (ha : a < env.bus.ramSize) :
    ramRead env.bus a = env.bus.ram a := by
  obtain ⟨hpos, hmod⟩ := mod_ramSize ha
  simp [ramRead, hram, hpos, hmod]

lemma hookedReads_of_plain (hram : env.bus.ramPresent = true) :
    ∀ {l : List UInt32}, (∀ a ∈ l, a < env.bus.ramSize) →
      (∀ a ∈ l, isPortAddr a = false ∧ ¬ env.bus.answers a false) →
      hookedReads env l = (l.map env.bus.ram, env)
  | [], _, _ => rfl
  | a :: l, hlt, hl => by
    obtain ⟨hp, hn⟩ := hl a List.mem_cons_self
    have hone : hookedRead env a = (env.bus.ram a, env) := by
      simp [hookedRead, hp, hn, ramRead_of_lt hram (hlt a List.mem_cons_self)]
    have htail := hookedReads_of_plain hram (fun b hb => hlt b (List.mem_cons_of_mem _ hb))
      (fun b hb => hl b (List.mem_cons_of_mem _ hb))
    simp only [hookedReads, hone, htail, List.map_cons]

lemma hookedReads_of_ports :
    ∀ {l : List UInt32}, (∀ a ∈ l, isPortAddr a = true) →
      hookedReads env l = (l.map fun a => coprocIoIn env (bareAddr a).toUInt8, env)
  | [], _ => rfl
  | a :: l, hl => by
    have hone : hookedRead env a = (coprocIoIn env (bareAddr a).toUInt8, env) := by
      simp [hookedRead, hl a List.mem_cons_self]
    have htail := hookedReads_of_ports (fun b hb => hl b (List.mem_cons_of_mem _ hb))
    simp only [hookedReads, hone, htail, List.map_cons]

lemma spent_reads : ∀ {l : List UInt32} {env : CoprocEnv}, env.Spent → (hookedReads env l).2.Spent
  | [], _, h => h
  | _ :: l, _, h => spent_reads (l := l) (h.read _)

lemma spent_reads_of_answers (hmap : env.bus.mapCount = 0) :
    ∀ {l : List UInt32}, (∀ a ∈ l, isPortAddr a = false) →
      (∃ a ∈ l, env.bus.answers a false) → (hookedReads env l).2.Spent
  | [], _, h => by simp at h
  | a :: l, hl, h => by
    have hp := hl a List.mem_cons_self
    by_cases hans : env.bus.answers a false
    · have hone : (hookedRead env a).2 = env.unanswered := by simp [hookedRead, hp, hans]
      have hspent : env.unanswered.Spent := ⟨hmap, rfl⟩
      show (hookedReads (hookedRead env a).2 l).2.Spent
      rw [hone]
      exact spent_reads hspent
    · have hone : (hookedRead env a).2 = env := by simp [hookedRead, hp, hans]
      show (hookedReads (hookedRead env a).2 l).2.Spent
      rw [hone]
      refine spent_reads_of_answers hmap (fun b hb => hl b (List.mem_cons_of_mem _ hb)) ?_
      obtain ⟨b, hb, hbans⟩ := h
      rcases List.mem_cons.mp hb with rfl | hb
      · exact absurd hbans hans
      · exact ⟨b, hb, hbans⟩

/-! ### Writes -/

lemma hookedWrite_of_plain (hram : env.bus.ramPresent = true) {a : UInt32}
    (ha : a < env.bus.ramSize) (hp : isPortAddr a = false) (hn : ¬ env.bus.answers a true)
    (v : UInt8) : hookedWrite env a v = env.setRam (env.bus.ram.set a v) := by
  obtain ⟨hpos, hmod⟩ := mod_ramSize ha
  simp [hookedWrite, hp, hn, ramWrite, hram, hpos, hmod, CoprocEnv.setRam]

lemma hookedWrites_of_plain : ∀ {l : List (UInt32 × UInt8)} {env : CoprocEnv},
    env.bus.ramPresent = true → (∀ p ∈ l, p.1 < env.bus.ramSize) →
    (∀ p ∈ l, isPortAddr p.1 = false ∧ ¬ env.bus.answers p.1 true) →
    hookedWrites env l = env.setRam (flatWrites env.bus.ram l)
  | [], _, _, _, _ => rfl
  | (a, v) :: l, env, hram, hlt, hl => by
    obtain ⟨hp, hn⟩ := hl (a, v) List.mem_cons_self
    have hone := hookedWrite_of_plain hram (hlt (a, v) List.mem_cons_self) hp hn v
    have htail : hookedWrites (env.setRam (env.bus.ram.set a v)) l
        = (env.setRam (env.bus.ram.set a v)).setRam (flatWrites (env.bus.ram.set a v) l) :=
      hookedWrites_of_plain hram (fun b hb => hlt b (List.mem_cons_of_mem _ hb))
        (fun b hb => hl b (List.mem_cons_of_mem _ hb))
    show hookedWrites (hookedWrite env a v) l = _
    rw [hone, htail]
    rfl

lemma hookedWrites_ports_last {l : List (UInt32 × UInt8)} {a : UInt32} (hp : isPortAddr a = true)
    (v : UInt8) : (hookedWrites env (l ++ [(a, v)])).ports (bareAddr a).toUInt8 = v := by
  simp [hookedWrites, List.foldl_append, hookedWrite, hp, coprocIoOut]

lemma spent_writes :
    ∀ {l : List (UInt32 × UInt8)} {env : CoprocEnv}, env.Spent → (hookedWrites env l).Spent
  | [], _, h => h
  | _ :: l, _, h => spent_writes (l := l) (h.write _ _)

lemma spent_writes_of_answers : ∀ {l : List (UInt32 × UInt8)} {env : CoprocEnv},
    env.bus.mapCount = 0 → (∀ p ∈ l, isPortAddr p.1 = false) →
    (∃ p ∈ l, env.bus.answers p.1 true) → (hookedWrites env l).Spent
  | [], _, _, _, h => by simp at h
  | (a, v) :: l, env, hmap, hl, h => by
    have hp : isPortAddr a = false := hl (a, v) List.mem_cons_self
    show (hookedWrites (hookedWrite env a v) l).Spent
    by_cases hans : env.bus.answers a true
    · have hone : hookedWrite env a v = env.unanswered := by simp [hookedWrite, hp, hans]
      have hspent : env.unanswered.Spent := ⟨hmap, rfl⟩
      rw [hone]
      exact spent_writes hspent
    · have hone : hookedWrite env a v = env.setRam (ramWrite env.bus a v).ram := by
        simp only [hookedWrite, hp, hans, if_false, Bool.false_eq_true, ramWrite]
        split_ifs <;> rfl
      rw [hone]
      refine spent_writes_of_answers hmap (fun b hb => hl b (List.mem_cons_of_mem _ hb)) ?_
      obtain ⟨b, hb, hbans⟩ := h
      rcases List.mem_cons.mp hb with rfl | hb
      · exact absurd hbans hans
      · exact ⟨b, hb, hbans⟩

end Bytes

/-! ## Alignment -/

lemma and_mask_eq_zero {addr : UInt32} (w : Rv32iWidth) :
    addr &&& (w.bytes - 1) = 0 ↔ addr.toNat % w.bytes.toNat = 0 := by
  rw [← UInt32.toNat_inj, UInt32.toNat_and]
  cases w with
  | byte => exact iff_of_eq (congrArg (· = 0) (Nat.and_two_pow_sub_one_eq_mod addr.toNat 0))
  | half => exact iff_of_eq (congrArg (· = 0) (Nat.and_two_pow_sub_one_eq_mod addr.toNat 1))
  | word => exact iff_of_eq (congrArg (· = 0) (Nat.and_two_pow_sub_one_eq_mod addr.toNat 2))

lemma mem_addrs {addr a : UInt32} {w : Rv32iWidth} (h : a ∈ w.addrs addr) :
    ∃ i < w.bytes.toNat, a = addr + UInt32.ofNat i := by
  cases w with
  | byte =>
    simp only [Rv32iWidth.addrs, List.mem_singleton] at h
    exact ⟨0, by decide, by simp [h]⟩
  | half =>
    simp only [Rv32iWidth.addrs, List.mem_cons, List.not_mem_nil, or_false] at h
    rcases h with rfl | rfl
    · exact ⟨0, by decide, by simp⟩
    · exact ⟨1, by decide, rfl⟩
  | word =>
    simp only [Rv32iWidth.addrs, List.mem_cons, List.not_mem_nil, or_false] at h
    rcases h with rfl | rfl | rfl | rfl
    · exact ⟨0, by decide, by simp⟩
    · exact ⟨1, by decide, rfl⟩
    · exact ⟨2, by decide, rfl⟩
    · exact ⟨3, by decide, rfl⟩

lemma isPortAddr_addrs {addr : UInt32} {w : Rv32iWidth} (hal : addr &&& (w.bytes - 1) = 0) :
    ∀ a ∈ w.addrs addr, isPortAddr a = isPortAddr addr := by
  intro a ha
  obtain ⟨i, hi, rfl⟩ := mem_addrs ha
  refine isPortAddr_add ?_ ((and_mask_eq_zero w).mp hal) hi
  cases w <;> decide

lemma self_mem_addrs (addr : UInt32) (w : Rv32iWidth) : addr ∈ w.addrs addr := by
  cases w <;> exact List.mem_cons_self

lemma inRange_of_addrs {s : Rv32iState} (hram : s.ramPresent = true) {addr : UInt32}
    {w : Rv32iWidth} (hal : addr &&& (w.bytes - 1) = 0)
    (hlt : ∀ a ∈ w.addrs addr, a < s.ramSize) : inRange s addr w.bytes = true := by
  have hmod := (and_mask_eq_zero w).mp hal
  have hsize : w.bytes.toNat ≤ s.ramSize.toNat ∧
      addr.toNat ≤ s.ramSize.toNat - w.bytes.toNat := by
    have ha := addr.toNat_lt
    have hr := s.ramSize.toNat_lt
    cases w with
    | byte =>
      have hl := UInt32.lt_iff_toNat_lt.mp (hlt addr (by simp [Rv32iWidth.addrs]))
      simp only [Rv32iWidth.bytes, UInt32.reduceToNat] at hmod ⊢
      omega
    | half =>
      have hl := UInt32.lt_iff_toNat_lt.mp (hlt (addr + 1) (by simp [Rv32iWidth.addrs]))
      simp only [Rv32iWidth.bytes, UInt32.reduceToNat, UInt32.toNat_add] at hmod hl ⊢
      omega
    | word =>
      have hl := UInt32.lt_iff_toNat_lt.mp (hlt (addr + 3) (by simp [Rv32iWidth.addrs]))
      simp only [Rv32iWidth.bytes, UInt32.reduceToNat, UInt32.toNat_add] at hmod hl ⊢
      omega
  have hle : w.bytes ≤ s.ramSize := UInt32.le_iff_toNat_le.mpr hsize.1
  have hle' : addr ≤ s.ramSize - w.bytes := by
    rw [UInt32.le_iff_toNat_le, UInt32.toNat_sub_of_le _ _ hle]
    exact hsize.2
  simp [inRange, hram, hle, hle']

/-! ## One instruction -/

structure ByteAccess where
  addr : UInt32
  isWrite : Bool
  kept : Bool
  deriving DecidableEq, Repr

local instance registers_ne_zero : NeZero 32 := ⟨by decide⟩

def Rv32iEffect.accesses : Rv32iEffect → List ByteAccess
  | .load width _ rd addr =>
    if addr &&& (width.bytes - 1) ≠ 0 then []
    else (width.addrs addr).map fun a => ⟨a, false, decide (rd ≠ 0)⟩
  | .store width addr _ =>
    if addr &&& (width.bytes - 1) ≠ 0 then []
    else (width.addrs addr).map fun a => ⟨a, true, true⟩
  | .retire _ _ _ | .halt _ | .illegal => []

def flatInsn (ram : Block) (pc : UInt32) : UInt32 :=
  Rv32iWidth.word.assemble ((Rv32iWidth.word.addrs pc).map ram)

/-- The bytes one `rv32i_step` accesses over flat RAM: its fetch, and what the instruction does. -/
def rv32iAccesses (s : Rv32iState) (ram : Block) : List ByteAccess :=
  if s.halted || s.faulted || s.stalled then []
  else if s.pc &&& 3 ≠ 0 then []
  else ((Rv32iWidth.word.addrs s.pc).map fun a => ⟨a, false, true⟩) ++
    (rv32iEffect s (flatInsn ram s.pc)).accesses

/-- The access meets the RAM: it takes no answer, and at a port nothing is kept of it. -/
def ByteAccess.MeetsRam (bus : CoproBus) (a : ByteAccess) : Prop :=
  if isPortAddr a.addr then a.kept = false else ¬ bus.answers a.addr a.isWrite

instance (bus : CoproBus) (a : ByteAccess) : Decidable (a.MeetsRam bus) :=
  inferInstanceAs (Decidable
    (if isPortAddr a.addr then a.kept = false else ¬ bus.answers a.addr a.isWrite))

def Rv32iState.withHook (s : Rv32iState) (hooked : Bool) : Rv32iState := { s with hooked := hooked }

def rehooked (out : (Nat × Rv32iState) × CoprocEnv) : (Nat × Rv32iState) × CoprocEnv :=
  ((out.1.1, out.1.2.withHook true), out.2)

/-- **One instruction is the same through the hook and over flat RAM**: the cycles it used, all of
the core, and all of the card. -/
def FlatAgrees (s : Rv32iState) (env : CoprocEnv) : Prop :=
  play coprocHandler rv32iStep (s.withHook true) env
    = rehooked (play coprocHandler rv32iStep (s.withHook false) env)

section Performing

variable {s : Rv32iState} {env : CoprocEnv} (insn : UInt32)

lemma play_finish (hst : s.stalled = false) (next : UInt32) :
    play coprocHandler (rv32iFinish next) s env
      = ((1, { s with pc := next, cycles := s.cycles + 1 }), env) := by
  rw [rv32iFinish, play_get_bind, if_neg (by simp [hst])]
  rfl

def afterLoad (s : Rv32iState) (width : Rv32iWidth) (signed : Bool) (rd : Fin 32) (val : UInt32) :
    Rv32iState :=
  { s.setReg rd (loadValue width signed val) with pc := s.pc + 4, cycles := s.cycles + 1 }

lemma play_load (hst : s.stalled = false) {width : Rv32iWidth} {signed : Bool} {rd : Fin 32}
    {addr : UInt32} (hal : addr &&& (width.bytes - 1) = 0)
    (hin : inRange s addr width.bytes = true) {val : UInt32} {env' : CoprocEnv}
    (hload : play coprocHandler (loadWidth addr width) s env = ((val, s), env')) :
    play coprocHandler (rv32iPerform insn (.load width signed rd addr)) s env
      = ((1, afterLoad s width signed rd val), env') := by
  have hst' : (s.setReg rd (loadValue width signed val)).stalled = false := by
    unfold Rv32iState.setReg
    split_ifs <;> exact hst
  rw [rv32iPerform, play_get_bind, if_neg (by simp [hal]), if_neg (by simp [hin])]
  simp only [play_bind, hload, play_modify, play_finish hst']
  have hcyc : (s.setReg rd (loadValue width signed val)).cycles = s.cycles := by
    unfold Rv32iState.setReg
    split_ifs <;> rfl
  rw [afterLoad, hcyc]

lemma play_store (hst : s.stalled = false) {width : Rv32iWidth} {addr val : UInt32}
    (hal : addr &&& (width.bytes - 1) = 0) (hin : inRange s addr width.bytes = true)
    {env' : CoprocEnv}
    (hstore : play coprocHandler (storeWidth addr val width) s env = (((), s), env')) :
    play coprocHandler (rv32iPerform insn (.store width addr val)) s env
      = ((1, { s with pc := s.pc + 4, cycles := s.cycles + 1 }), env') := by
  rw [rv32iPerform, play_get_bind, if_neg (by simp [hal]), if_neg (by simp [hin])]
  simp only [play_bind, hstore, play_finish hst]

def CoprocEnv.filled (bus : CoproBus) (v : UInt8) : CoprocEnv := ⟨bus, v.toUInt32, 0, fun _ => v⟩

lemma filled_ioIn (bus : CoproBus) (v port : UInt8) : coprocIoIn (.filled bus v) port = v := by
  simp only [coprocIoIn, CoprocEnv.filled]
  split_ifs <;> simp

lemma filled_reads {bus : CoproBus} {v : UInt8} {addr : UInt32} {w : Rv32iWidth}
    (hal : addr &&& (w.bytes - 1) = 0) (hp : isPortAddr addr = true) :
    hookedReads (.filled bus v) (w.addrs addr)
      = ((w.addrs addr).map fun _ => v, .filled bus v) := by
  rw [hookedReads_of_ports fun a ha => (isPortAddr_addrs hal a ha).trans hp]
  simp only [filled_ioIn]

lemma loadValue_fill_ne (addr : UInt32) (w : Rv32iWidth) (signed : Bool) :
    loadValue w signed (w.assemble ((w.addrs addr).map fun _ => 0))
      ≠ loadValue w signed (w.assemble ((w.addrs addr).map fun _ => 0xff)) := by
  cases w <;> cases signed <;> simp only [Rv32iWidth.addrs, List.map_cons, List.map_nil] <;> decide

lemma exists_stores_last (addr val : UInt32) (w : Rv32iWidth) :
    ∃ l a v, w.stores addr val = l ++ [(a, v)] ∧ a ∈ w.addrs addr := by
  cases w with
  | byte => exact ⟨[], _, _, rfl, by simp [Rv32iWidth.addrs]⟩
  | half => exact ⟨[_], _, _, rfl, by simp [Rv32iWidth.addrs]⟩
  | word => exact ⟨[_, _, _], _, _, rfl, by simp [Rv32iWidth.addrs]⟩

/-- A core on a card with RAM and no map. -/
structure OnFlatCard (s : Rv32iState) (bus : CoproBus) : Prop where
  noMap : bus.mapCount = 0
  present : bus.ramPresent = true
  corePresent : s.ramPresent = true
  coreSize : s.ramSize = bus.ramSize

section Load

variable {bus : CoproBus} (hc : OnFlatCard s bus) (hst : s.stalled = false) {width : Rv32iWidth}
  {signed : Bool} {rd : Fin 32} {addr : UInt32} (hal : addr &&& (width.bytes - 1) = 0)
  (hlt : ∀ a ∈ width.addrs addr, a < bus.ramSize)
include hc hst hal

lemma play_load_hooked {tx rx : UInt32} {ports : UInt8 → UInt8} :
    play coprocHandler (rv32iPerform insn (.load width signed rd addr)) (s.withHook true)
        ⟨bus, tx, rx, ports⟩
      = ((1, afterLoad (s.withHook true) width signed rd
          (width.assemble (hookedReads ⟨bus, tx, rx, ports⟩ (width.addrs addr)).1)),
          (hookedReads ⟨bus, tx, rx, ports⟩ (width.addrs addr)).2) :=
  play_load (s := s.withHook true) insn hst hal rfl
    (play_loadWidth_hooked (s := s.withHook true) rfl hc.noMap addr width)

include hlt

lemma play_load_flat {tx rx : UInt32} {ports : UInt8 → UInt8} :
    play coprocHandler (rv32iPerform insn (.load width signed rd addr)) (s.withHook false)
        ⟨bus, tx, rx, ports⟩
      = ((1, afterLoad (s.withHook false) width signed rd
          (width.assemble ((width.addrs addr).map bus.ram))), ⟨bus, tx, rx, ports⟩) := by
  have hin : inRange (s.withHook false) addr width.bytes = true :=
    inRange_of_addrs (s := s.withHook false) hc.corePresent hal
      (fun a ha => (hlt a ha).trans_eq hc.coreSize.symm)
  exact play_load (s := s.withHook false) insn hst hal hin
    (play_loadWidth_flat (s := s.withHook false) rfl addr width)

lemma load_agrees_iff :
    (∀ tx rx ports,
      play coprocHandler (rv32iPerform insn (.load width signed rd addr)) (s.withHook true)
          ⟨bus, tx, rx, ports⟩
        = rehooked (play coprocHandler (rv32iPerform insn (.load width signed rd addr))
            (s.withHook false) ⟨bus, tx, rx, ports⟩)) ↔
      ∀ a ∈ (Rv32iEffect.load width signed rd addr).accesses, a.MeetsRam bus := by
  simp only [play_load_hooked insn hc hst hal, play_load_flat insn hc hst hal hlt, rehooked,
    Rv32iEffect.accesses, hal, ne_eq, not_true_eq_false, if_false, List.forall_mem_map,
    ByteAccess.MeetsRam, Prod.mk.injEq, true_and]
  cases hp : isPortAddr addr with
  | true =>
    have hports : ∀ a ∈ width.addrs addr, isPortAddr a = true :=
      fun a ha => (isPortAddr_addrs hal a ha).trans hp
    constructor
    · intro h a ha
      rw [if_pos (hports a ha), decide_eq_false_iff_not, not_not]
      by_contra hrd
      -- two fillings of the ports, one flat outcome
      have h0 := (h _ _ _).1.symm.trans (congrArg (afterLoad (s.withHook true) width signed rd)
        (congrArg width.assemble (congrArg Prod.fst (filled_reads (v := 0) hal hp))))
      have h1 := (h _ _ _).1.symm.trans (congrArg (afterLoad (s.withHook true) width signed rd)
        (congrArg width.assemble (congrArg Prod.fst (filled_reads (v := 0xff) hal hp))))
      have hx := congrArg (fun s => s.x rd) (h0.symm.trans h1)
      simp only [afterLoad, Rv32iState.setReg, hrd, if_false, if_true] at hx
      exact loadValue_fill_ne addr width signed hx
    · intro h tx rx ports
      have hrd : rd = 0 := by
        have := h addr (self_mem_addrs addr width)
        simpa [hp] using this
      rw [hookedReads_of_ports hports]
      refine ⟨?_, rfl⟩
      simp [afterLoad, Rv32iState.setReg, hrd, Rv32iState.withHook]
  | false =>
    have hnot : ∀ a ∈ width.addrs addr, isPortAddr a = false :=
      fun a ha => (isPortAddr_addrs hal a ha).trans hp
    constructor
    · intro h a ha
      rw [if_neg (by simp [hnot a ha])]
      intro hans
      have henv := (h 0 0 fun _ => 0).2
      have hspent : (CoprocEnv.mk bus 0 0 fun _ => 0).Spent :=
        henv ▸ spent_reads_of_answers hc.noMap hnot ⟨a, ha, hans⟩
      exact hspent.not_answers a false hans
    · intro h tx rx ports
      have hplain : ∀ a ∈ width.addrs addr, isPortAddr a = false ∧ ¬ bus.answers a false := by
        intro a ha
        have := h a ha
        rw [if_neg (by simp [hnot a ha])] at this
        exact ⟨hnot a ha, this⟩
      rw [hookedReads_of_plain hc.present hlt hplain]
      refine ⟨?_, rfl⟩
      simp only [afterLoad, Rv32iState.setReg, Rv32iState.withHook]
      split_ifs <;> rfl

end Load

section Store

variable {bus : CoproBus} (hc : OnFlatCard s bus) (hst : s.stalled = false) {width : Rv32iWidth}
  {addr val : UInt32} (hal : addr &&& (width.bytes - 1) = 0)
  (hlt : ∀ a ∈ width.addrs addr, a < bus.ramSize)
include hc hst hal

lemma play_store_hooked {tx rx : UInt32} {ports : UInt8 → UInt8} :
    play coprocHandler (rv32iPerform insn (.store width addr val)) (s.withHook true)
        ⟨bus, tx, rx, ports⟩
      = ((1, { s.withHook true with pc := s.pc + 4, cycles := s.cycles + 1 }),
          hookedWrites ⟨bus, tx, rx, ports⟩ (width.stores addr val)) :=
  play_store (s := s.withHook true) insn hst hal rfl
    (play_storeWidth_hooked (s := s.withHook true) rfl hc.noMap addr val width)

include hlt

lemma play_store_flat {tx rx : UInt32} {ports : UInt8 → UInt8} :
    play coprocHandler (rv32iPerform insn (.store width addr val)) (s.withHook false)
        ⟨bus, tx, rx, ports⟩
      = ((1, { s.withHook false with pc := s.pc + 4, cycles := s.cycles + 1 }),
          CoprocEnv.setRam ⟨bus, tx, rx, ports⟩ (flatWrites bus.ram (width.stores addr val))) := by
  have hin : inRange (s.withHook false) addr width.bytes = true :=
    inRange_of_addrs (s := s.withHook false) hc.corePresent hal
      (fun a ha => (hlt a ha).trans_eq hc.coreSize.symm)
  exact play_store (s := s.withHook false) insn hst hal hin
    (play_storeWidth_flat (s := s.withHook false) rfl addr val width)

lemma store_agrees_iff :
    (∀ tx rx ports,
      play coprocHandler (rv32iPerform insn (.store width addr val)) (s.withHook true)
          ⟨bus, tx, rx, ports⟩
        = rehooked (play coprocHandler (rv32iPerform insn (.store width addr val))
            (s.withHook false) ⟨bus, tx, rx, ports⟩)) ↔
      ∀ a ∈ (Rv32iEffect.store width addr val).accesses, a.MeetsRam bus := by
  have hmem : ∀ p ∈ width.stores addr val, p.1 ∈ width.addrs addr := by
    intro p hp
    rw [← Rv32iWidth.stores_addrs addr val width]
    exact List.mem_map_of_mem hp
  simp only [play_store_hooked insn hc hst hal, play_store_flat insn hc hst hal hlt, rehooked,
    Rv32iEffect.accesses, hal, ne_eq, not_true_eq_false, if_false, List.forall_mem_map,
    ByteAccess.MeetsRam, Prod.mk.injEq, true_and]
  cases hp : isPortAddr addr with
  | true =>
    constructor
    · intro h
      obtain ⟨l, a, v, hl, ha⟩ := exists_stores_last addr val width
      have hpa : isPortAddr a = true := (isPortAddr_addrs hal a ha).trans hp
      -- a latch that holds anything but the byte stored
      have hports := congrArg (fun env => env.ports (bareAddr a).toUInt8)
        (h 0 0 fun _ => v + 1).2
      simp only [hl, hookedWrites_ports_last hpa, CoprocEnv.setRam] at hports
      simp at hports
    · intro h
      have := h addr (self_mem_addrs addr width)
      simp [hp] at this
  | false =>
    have hnot : ∀ a ∈ width.addrs addr, isPortAddr a = false :=
      fun a ha => (isPortAddr_addrs hal a ha).trans hp
    have hnot' : ∀ p ∈ width.stores addr val, isPortAddr p.1 = false :=
      fun p hp => hnot p.1 (hmem p hp)
    constructor
    · intro h a ha
      rw [if_neg (by simp [hnot a ha])]
      intro hans
      obtain ⟨p, hp, rfl⟩ : ∃ p ∈ width.stores addr val, p.1 = a := by
        rw [← Rv32iWidth.stores_addrs addr val width] at ha
        exact List.mem_map.mp ha
      have henv := (h 0 0 fun _ => 0).2
      have hspent : CoprocEnv.Spent (CoprocEnv.setRam ⟨bus, 0, 0, fun _ => 0⟩ _) :=
        henv ▸ spent_writes_of_answers hc.noMap hnot' ⟨p, hp, hans⟩
      exact hspent.not_answers p.1 true hans
    · intro h tx rx ports
      have hplain : ∀ p ∈ width.stores addr val,
          isPortAddr p.1 = false ∧ ¬ bus.answers p.1 true := by
        intro p hp
        have := h p.1 (hmem p hp)
        rw [if_neg (by simp [hnot' p hp])] at this
        exact ⟨hnot' p hp, this⟩
      exact ⟨rfl, hookedWrites_of_plain hc.present (fun p hp => hlt p.1 (hmem p hp)) hplain⟩

end Store

/-- **What an instruction does after its fetch**, whatever the mailbox and the ports hold. -/
lemma perform_agrees_iff {bus : CoproBus} (hc : OnFlatCard s bus) (hst : s.stalled = false)
    (e : Rv32iEffect) (hlt : ∀ a ∈ e.accesses, a.addr < bus.ramSize) :
    (∀ tx rx ports,
      play coprocHandler (rv32iPerform insn e) (s.withHook true) ⟨bus, tx, rx, ports⟩
        = rehooked (play coprocHandler (rv32iPerform insn e) (s.withHook false)
            ⟨bus, tx, rx, ports⟩)) ↔
      ∀ a ∈ e.accesses, a.MeetsRam bus := by
  cases e with
  | retire rd val next =>
    have hst' : ∀ b, ((s.withHook b).setReg rd val).stalled = false := by
      intro b
      unfold Rv32iState.setReg
      split_ifs <;> exact hst
    simp only [Rv32iEffect.accesses, List.not_mem_nil, false_implies, implies_true, iff_true]
    intro tx rx ports
    simp only [rv32iPerform, play_bind, play_modify, play_finish (hst' _), rehooked]
    simp only [Rv32iState.withHook, Rv32iState.setReg]
    split_ifs <;> rfl
  | load width signed rd addr =>
    by_cases hal : addr &&& (width.bytes - 1) = 0
    · refine load_agrees_iff insn hc hst hal fun a ha => ?_
      exact hlt ⟨a, false, decide (rd ≠ 0)⟩ (by simp [Rv32iEffect.accesses, hal, ha])
    · simp only [Rv32iEffect.accesses, hal, ne_eq, not_false_eq_true, if_true, List.not_mem_nil,
        false_implies, implies_true, iff_true]
      intro tx rx ports
      rw [rv32iPerform, play_get_bind, play_get_bind, if_pos hal, if_pos hal]
      rfl
  | store width addr val =>
    by_cases hal : addr &&& (width.bytes - 1) = 0
    · refine store_agrees_iff insn hc hst hal fun a ha => ?_
      exact hlt ⟨a, true, true⟩ (by simp [Rv32iEffect.accesses, hal, ha])
    · simp only [Rv32iEffect.accesses, hal, ne_eq, not_false_eq_true, if_true, List.not_mem_nil,
        false_implies, implies_true, iff_true]
      intro tx rx ports
      rw [rv32iPerform, play_get_bind, play_get_bind, if_pos hal, if_pos hal]
      rfl
  | halt reason =>
    simp only [Rv32iEffect.accesses, List.not_mem_nil, false_implies, implies_true, iff_true]
    exact fun tx rx ports => rfl
  | illegal =>
    simp only [Rv32iEffect.accesses, List.not_mem_nil, false_implies, implies_true, iff_true]
    exact fun tx rx ports => rfl

end Performing

/-! ## The whole step -/

section Step

variable {s : Rv32iState} {bus : CoproBus}

lemma rv32iEffect_save (b : Bool) (insn : UInt32) :
    rv32iEffect (s.save.withHook b) insn = rv32iEffect s insn := by
  have hx : (s.save.withHook b).x = s.x := by
    simp only [Rv32iState.withHook, Rv32iState.save]
    split_ifs <;> rfl
  have hpc : (s.save.withHook b).pc = s.pc := by
    simp only [Rv32iState.withHook, Rv32iState.save]
    split_ifs <;> rfl
  simp only [rv32iEffect, hx, hpc]

lemma save_withHook (b : Bool) : (s.withHook b).save = s.save.withHook b := by
  cases hcan : s.canStall <;> simp [Rv32iState.withHook, Rv32iState.save, hcan]

lemma play_step {b : Bool} {env env' : CoprocEnv} {insn : UInt32}
    (hrun : (s.halted || s.faulted || s.stalled) = false) (hal : s.pc &&& 3 = 0)
    (hin : inRange (s.withHook b) s.pc 4 = true)
    (hfetch : play coprocHandler (loadWidth s.pc .word) (s.save.withHook b) env
      = ((insn, s.save.withHook b), env')) :
    play coprocHandler rv32iStep (s.withHook b) env
      = play coprocHandler (rv32iPerform insn (rv32iEffect s insn)) (s.save.withHook b) env' := by
  have hpc : (s.withHook b).pc = s.pc := rfl
  have hrun' : ((s.withHook b).halted || (s.withHook b).faulted || (s.withHook b).stalled) = false :=
    hrun
  rw [rv32iStep, play_get_bind, if_neg (by simp [hrun']), play_bind, play_modify, save_withHook, hpc,
    if_neg (by simp [hal]), if_neg (by simp [hin]), play_bind, hfetch, play_get_bind,
    rv32iEffect_save]

lemma save_onFlatCard (hc : OnFlatCard s bus) : OnFlatCard s.save bus := by
  obtain ⟨h1, h2, h3, h4⟩ := hc
  unfold Rv32iState.save
  split_ifs <;> exact ⟨h1, h2, h3, h4⟩

/-- **Over flat RAM** an instruction has one outcome, whatever the mailbox and the ports hold, and
all it changes of the card is the RAM. -/
lemma flat_perform {s : Rv32iState} (hst : s.stalled = false) (bus : CoproBus) (insn : UInt32)
    (e : Rv32iEffect) :
    ∃ core ram, ∀ tx rx ports,
      play coprocHandler (rv32iPerform insn e) (s.withHook false) ⟨bus, tx, rx, ports⟩
        = (core, CoprocEnv.setRam ⟨bus, tx, rx, ports⟩ ram) := by
  cases e with
  | retire rd val next =>
    have hst' : ((s.withHook false).setReg rd val).stalled = false := by
      unfold Rv32iState.setReg
      split_ifs <;> exact hst
    refine ⟨(1, { (s.withHook false).setReg rd val with
      pc := next, cycles := ((s.withHook false).setReg rd val).cycles + 1 }), bus.ram,
      fun tx rx ports => ?_⟩
    rw [rv32iPerform, play_bind, play_modify, play_finish hst']
    rfl
  | load width signed rd addr =>
    by_cases hal : addr &&& (width.bytes - 1) = 0
    · cases hin : inRange (s.withHook false) addr width.bytes with
      | true =>
        refine ⟨(1, afterLoad (s.withHook false) width signed rd
          (width.assemble ((width.addrs addr).map bus.ram))), bus.ram, fun tx rx ports => ?_⟩
        have hload : play coprocHandler (loadWidth addr width) (s.withHook false)
              ⟨bus, tx, rx, ports⟩
            = ((width.assemble ((width.addrs addr).map bus.ram), s.withHook false),
                ⟨bus, tx, rx, ports⟩) := play_loadWidth_flat rfl addr width
        exact play_load (s := s.withHook false) insn hst hal hin hload
      | false =>
        refine ⟨(0, (s.withHook false).fault .loadAccess addr), bus.ram, fun tx rx ports => ?_⟩
        rw [rv32iPerform, play_get_bind, if_neg (by simp [hal]), if_pos (by simp [hin])]
        rfl
    · refine ⟨(0, (s.withHook false).fault .loadMisaligned addr), bus.ram, fun tx rx ports => ?_⟩
      rw [rv32iPerform, play_get_bind, if_pos hal]
      rfl
  | store width addr val =>
    by_cases hal : addr &&& (width.bytes - 1) = 0
    · cases hin : inRange (s.withHook false) addr width.bytes with
      | true =>
        refine ⟨(1, { s.withHook false with pc := s.pc + 4, cycles := s.cycles + 1 }),
          flatWrites bus.ram (width.stores addr val), fun tx rx ports => ?_⟩
        have hstore : play coprocHandler (storeWidth addr val width) (s.withHook false)
              ⟨bus, tx, rx, ports⟩
            = (((), s.withHook false), CoprocEnv.setRam ⟨bus, tx, rx, ports⟩
                (flatWrites bus.ram (width.stores addr val))) :=
          play_storeWidth_flat rfl addr val width
        exact play_store (s := s.withHook false) insn hst hal hin hstore
      | false =>
        refine ⟨(0, (s.withHook false).fault .storeAccess addr), bus.ram, fun tx rx ports => ?_⟩
        rw [rv32iPerform, play_get_bind, if_neg (by simp [hal]), if_pos (by simp [hin])]
        rfl
    · refine ⟨(0, (s.withHook false).fault .storeMisaligned addr), bus.ram, fun tx rx ports => ?_⟩
      rw [rv32iPerform, play_get_bind, if_pos hal]
      rfl
  | halt reason => exact ⟨_, bus.ram, fun tx rx ports => rfl⟩
  | illegal => exact ⟨_, bus.ram, fun tx rx ports => rfl⟩

lemma save_stalled (hrun : (s.halted || s.faulted || s.stalled) = false) :
    s.save.stalled = false := by
  simp only [Bool.or_eq_false_iff] at hrun
  unfold Rv32iState.save
  split_ifs <;> exact hrun.2

section Running

variable (hc : OnFlatCard s bus) (hrun : (s.halted || s.faulted || s.stalled) = false)
  (hal : s.pc &&& 3 = 0) (hlt : ∀ a ∈ Rv32iWidth.word.addrs s.pc, a < bus.ramSize)
include hc hrun hal

lemma play_step_hooked (tx rx : UInt32) (ports : UInt8 → UInt8) :
    play coprocHandler rv32iStep (s.withHook true) ⟨bus, tx, rx, ports⟩
      = let fetch := hookedReads ⟨bus, tx, rx, ports⟩ (Rv32iWidth.word.addrs s.pc)
        let insn := Rv32iWidth.word.assemble fetch.1
        play coprocHandler (rv32iPerform insn (rv32iEffect s insn)) (s.save.withHook true) fetch.2 :=
  play_step hrun hal rfl (play_loadWidth_hooked (s := s.save.withHook true) rfl hc.noMap s.pc .word)

lemma play_step_flat (hlt : ∀ a ∈ Rv32iWidth.word.addrs s.pc, a < bus.ramSize) (tx rx : UInt32)
    (ports : UInt8 → UInt8) :
    play coprocHandler rv32iStep (s.withHook false) ⟨bus, tx, rx, ports⟩
      = play coprocHandler (rv32iPerform (flatInsn bus.ram s.pc)
          (rv32iEffect s (flatInsn bus.ram s.pc))) (s.save.withHook false)
          ⟨bus, tx, rx, ports⟩ := by
  have hin : inRange (s.withHook false) s.pc 4 = true :=
    inRange_of_addrs (s := s.withHook false) (w := .word) hc.corePresent hal
      (fun a ha => (hlt a ha).trans_eq hc.coreSize.symm)
  exact play_step hrun hal hin (play_loadWidth_flat (s := s.save.withHook false) rfl s.pc .word)

include hlt

lemma faultAddr_of_filled (hp : isPortAddr s.pc = true) {v : UInt8} {insn : UInt32}
    (hv : Rv32iWidth.word.assemble [v, v, v, v] = insn) (hill : rv32iEffect s insn = .illegal)
    (h : FlatAgrees s (.filled bus v)) :
    (play coprocHandler (rv32iPerform (flatInsn bus.ram s.pc)
      (rv32iEffect s (flatInsn bus.ram s.pc))) (s.save.withHook false)
      (.filled bus v)).1.2.faultAddr = insn := by
  have hfetch : hookedReads ⟨bus, v.toUInt32, 0, fun _ => v⟩ (Rv32iWidth.word.addrs s.pc)
      = ([v, v, v, v], .filled bus v) := filled_reads (w := .word) hal hp
  rw [FlatAgrees, CoprocEnv.filled, play_step_hooked hc hrun hal, play_step_flat hc hrun hal hlt,
    hfetch] at h
  simp only [hv, hill] at h
  exact (congrArg (fun out => out.1.2.faultAddr) h).symm

lemma not_agrees_of_port (hp : isPortAddr s.pc = true) :
    ¬ ∀ tx rx ports, FlatAgrees s ⟨bus, tx, rx, ports⟩ := by
  intro h
  have h0 := faultAddr_of_filled hc hrun hal hlt hp
    (show Rv32iWidth.word.assemble [0, 0, 0, 0] = 0 by decide) rfl (h _ _ _)
  have h1 := faultAddr_of_filled hc hrun hal hlt hp
    (show Rv32iWidth.word.assemble [0xff, 0xff, 0xff, 0xff] = 0xffffffff by decide) rfl (h _ _ _)
  obtain ⟨core, ram, hflat⟩ := flat_perform (save_stalled hrun) bus (flatInsn bus.ram s.pc)
    (rv32iEffect s (flatInsn bus.ram s.pc))
  rw [CoprocEnv.filled, hflat] at h0 h1
  exact absurd (h0.symm.trans h1) (by decide)

lemma not_agrees_of_answered (hp : isPortAddr s.pc = false) {a : UInt32}
    (ha : a ∈ Rv32iWidth.word.addrs s.pc) (hans : bus.answers a false) :
    ¬ FlatAgrees s ⟨bus, 0, 0, fun _ => 0⟩ := by
  intro h
  have hnot : ∀ b ∈ Rv32iWidth.word.addrs s.pc, isPortAddr b = false :=
    fun b hb => (isPortAddr_addrs (w := .word) hal b hb).trans hp
  have hspent : (hookedReads ⟨bus, 0, 0, fun _ => 0⟩ (Rv32iWidth.word.addrs s.pc)).2.Spent :=
    spent_reads_of_answers hc.noMap hnot ⟨a, ha, hans⟩
  obtain ⟨core, ram, hflat⟩ := flat_perform (save_stalled hrun) bus (flatInsn bus.ram s.pc)
    (rv32iEffect s (flatInsn bus.ram s.pc))
  rw [FlatAgrees, play_step_hooked hc hrun hal, play_step_flat hc hrun hal hlt, hflat] at h
  have henv : (_ : CoprocEnv) = CoprocEnv.setRam ⟨bus, 0, 0, fun _ => 0⟩ ram := congrArg Prod.snd h
  have hend : CoprocEnv.Spent (CoprocEnv.setRam ⟨bus, 0, 0, fun _ => 0⟩ ram) :=
    henv ▸ spent_of_play _ _ hspent
  exact hend.not_answers a false hans

lemma running_agrees_iff
    (hdata : ∀ a ∈ (rv32iEffect s (flatInsn bus.ram s.pc)).accesses, a.addr < bus.ramSize) :
    (∀ tx rx ports, FlatAgrees s ⟨bus, tx, rx, ports⟩) ↔
      (∀ a ∈ Rv32iWidth.word.addrs s.pc, isPortAddr a = false ∧ ¬ bus.answers a false) ∧
      ∀ a ∈ (rv32iEffect s (flatInsn bus.ram s.pc)).accesses, a.MeetsRam bus := by
  rw [← perform_agrees_iff (flatInsn bus.ram s.pc) (save_onFlatCard hc) (save_stalled hrun) _ hdata]
  have hsame : (∀ a ∈ Rv32iWidth.word.addrs s.pc, isPortAddr a = false ∧ ¬ bus.answers a false) →
      ∀ tx rx ports, FlatAgrees s ⟨bus, tx, rx, ports⟩ ↔
        play coprocHandler (rv32iPerform (flatInsn bus.ram s.pc)
            (rv32iEffect s (flatInsn bus.ram s.pc))) (s.save.withHook true) ⟨bus, tx, rx, ports⟩
          = rehooked (play coprocHandler (rv32iPerform (flatInsn bus.ram s.pc)
            (rv32iEffect s (flatInsn bus.ram s.pc))) (s.save.withHook false)
            ⟨bus, tx, rx, ports⟩) := by
    intro hplain tx rx ports
    rw [FlatAgrees, play_step_hooked hc hrun hal, play_step_flat hc hrun hal hlt,
      hookedReads_of_plain hc.present hlt hplain]
    rfl
  constructor
  · intro h
    have hplain : ∀ a ∈ Rv32iWidth.word.addrs s.pc,
        isPortAddr a = false ∧ ¬ bus.answers a false := by
      intro a ha
      have hp : isPortAddr s.pc = false := by
        by_contra hp
        exact not_agrees_of_port hc hrun hal hlt (eq_true_of_ne_false hp) h
      refine ⟨(isPortAddr_addrs (w := .word) hal a ha).trans hp, fun hans => ?_⟩
      exact not_agrees_of_answered hc hrun hal hlt hp ha hans (h _ _ _)
    exact ⟨hplain, fun tx rx ports => (hsame hplain tx rx ports).mp (h tx rx ports)⟩
  · rintro ⟨hplain, h⟩ tx rx ports
    exact (hsame hplain tx rx ports).mpr (h tx rx ports)

end Running

end Step

/-! ## The card as flat memory -/

/-- The write puts the byte in RAM, and a read finds it. -/
def StoresByte (env : CoprocEnv) (addr : UInt32) (val : UInt8) (cycles : UInt64) : Prop :=
  coprocHookWrite env addr val cycles = (.ok, env.setRam (env.bus.ram.set addr val)) ∧
  coprocHookRead (env.setRam (env.bus.ram.set addr val)) addr
    = ((.ok, val), env.setRam (env.bus.ram.set addr val))

lemma storesByte_iff {bus : CoproBus} (hmap : bus.mapCount = 0) (hram : bus.ramPresent = true)
    {addr : UInt32} (hlt : addr < bus.ramSize) (val : UInt8) (cycles : UInt64) :
    (∀ tx rx ports, StoresByte ⟨bus, tx, rx, ports⟩ addr val cycles) ↔
      isPortAddr addr = false ∧ ∀ isWrite, ¬ bus.answers addr isWrite := by
  constructor
  · intro h
    have hp : isPortAddr addr = false := by
      by_contra hp
      have hp : isPortAddr addr = true := eq_true_of_ne_false hp
      obtain ⟨hwrite, -⟩ := h 0 0 fun _ => val + 1
      rw [coprocHookWrite_of_noMap hmap] at hwrite
      have hport := congrArg (fun out => out.2.ports (bareAddr addr).toUInt8) hwrite
      simp [hookedWrite, hp, coprocIoOut, CoprocEnv.setRam] at hport
    refine ⟨hp, fun isWrite hans => ?_⟩
    obtain ⟨hwrite, hread⟩ := h 0 0 fun _ => 0
    cases isWrite with
    | true =>
      rw [coprocHookWrite_of_noMap hmap] at hwrite
      have hv := congrArg (fun out => out.2.bus.answerValid) hwrite
      simp only [hookedWrite, hp, hans, if_true, if_false, Bool.false_eq_true,
        CoprocEnv.unanswered, CoprocEnv.setRam] at hv
      exact absurd (hv.trans hans.1) (by decide)
    | false =>
      have hans' : (CoprocEnv.setRam ⟨bus, 0, 0, fun _ => 0⟩ (bus.ram.set addr val)).bus.answers
          addr false := hans
      rw [coprocHookRead_of_noMap hmap] at hread
      have hv := congrArg (fun out => out.2.bus.answerValid) hread
      simp only [hookedRead, hp, hans', if_true, if_false, Bool.false_eq_true,
        CoprocEnv.unanswered] at hv
      exact absurd (hv.trans hans.1) (by decide)
  · rintro ⟨hp, hans⟩ tx rx ports
    have hans' : ¬ (CoprocEnv.setRam ⟨bus, tx, rx, ports⟩ (bus.ram.set addr val)).bus.answers
        addr false := hans false
    constructor
    · rw [coprocHookWrite_of_noMap hmap, hookedWrite_of_plain hram hlt hp (hans true)]
    · rw [coprocHookRead_of_noMap hmap]
      simp only [hookedRead, hp, hans', if_false, Bool.false_eq_true]
      rw [ramRead_of_lt hram hlt]
      simp [CoprocEnv.setRam]

/-- **A card with no map is flat memory exactly where its addresses are not taken for ports.**  An
instruction inside RAM runs through the hook as it does with no hook, whatever the mailbox and the
ports hold, exactly when each byte it accesses meets RAM; and a byte stored is one byte of RAM that
reads back exactly when its address does. -/
theorem flatMemory_iff (s : Rv32iState) (bus : CoproBus) (hc : OnFlatCard s bus)
    (hlt : ∀ a ∈ rv32iAccesses s bus.ram, a.addr < bus.ramSize) :
    ((∀ tx rx ports, FlatAgrees s ⟨bus, tx, rx, ports⟩) ↔
      ∀ a ∈ rv32iAccesses s bus.ram, a.MeetsRam bus) ∧
    ∀ addr < bus.ramSize, ∀ val cycles,
      ((∀ tx rx ports, StoresByte ⟨bus, tx, rx, ports⟩ addr val cycles) ↔
        isPortAddr addr = false ∧ ∀ isWrite, ¬ bus.answers addr isWrite) := by
  refine ⟨?_, fun addr ha val cycles => storesByte_iff hc.noMap hc.present ha val cycles⟩
  cases hrun : (s.halted || s.faulted || s.stalled) with
  | true =>
    simp only [rv32iAccesses, hrun, if_true, List.not_mem_nil, false_implies, implies_true,
      iff_true]
    intro tx rx ports
    have hrun' : ∀ b, ((s.withHook b).halted || (s.withHook b).faulted
        || (s.withHook b).stalled) = true := fun _ => hrun
    rw [FlatAgrees, rv32iStep, play_get_bind, play_get_bind, if_pos (hrun' true),
      if_pos (hrun' false)]
    rfl
  | false =>
    by_cases hal : s.pc &&& 3 = 0
    · have hacc : rv32iAccesses s bus.ram
          = ((Rv32iWidth.word.addrs s.pc).map fun a => ⟨a, false, true⟩) ++
            (rv32iEffect s (flatInsn bus.ram s.pc)).accesses := by
        rw [rv32iAccesses, if_neg (by simp [hrun]), if_neg (by simp [hal])]
      rw [hacc] at hlt ⊢
      simp only [List.forall_mem_append, List.forall_mem_map] at hlt ⊢
      rw [running_agrees_iff hc hrun hal hlt.1 hlt.2]
      refine and_congr_left fun _ => ?_
      refine forall₂_congr fun a _ => ?_
      cases hp : isPortAddr a <;> simp [ByteAccess.MeetsRam, hp]
    · have hal' : ∀ b, (s.withHook b).pc &&& 3 ≠ 0 := fun _ => hal
      have hrun' : ∀ b, ¬ ((s.withHook b).halted || (s.withHook b).faulted
          || (s.withHook b).stalled) = true := fun _ => Bool.eq_false_iff.mp hrun
      simp only [rv32iAccesses, hrun, hal, ne_eq, not_false_eq_true, if_true, if_false,
        Bool.false_eq_true, List.not_mem_nil, false_implies, implies_true, iff_true]
      intro tx rx ports
      rw [FlatAgrees, rv32iStep, play_get_bind, play_get_bind, if_neg (hrun' true),
        if_neg (hrun' false), play_bind, play_bind, play_modify, play_modify, if_pos (hal' true),
        if_pos (hal' false), save_withHook, save_withHook]
      rfl

/-- A core with 128K of RAM, and x1 at `addr`. -/
def flatCore (addr : UInt32) : Rv32iState :=
  { rv32iInit true 0x20000 with x := fun r => if r = 1 then addr else 0 }

/-- A card with no map, the instruction `insn` at 0 and 0x55 at 0x10000. -/
def flatBus (insn : UInt32) : CoproBus :=
  coproBusInit ((Block.setWord (fun _ => 0) 0 insn).set 0x10000 0x55) true 0x20000 (fun _ => 0) true
    0x40000

theorem flatMemory_store_byte :
    FlatAgrees (flatCore 0x30) (.filled (flatBus 0x00108023) 0) :=
  (flatMemory_iff (flatCore 0x30) (flatBus 0x00108023) ⟨rfl, rfl, rfl, rfl⟩ (by decide)).1.mpr
    (by decide) _ _ _

/-- **The gap.**  `lb x2, 0(x1)` with x1 at 0x10000 loads the mailbox. -/
theorem high_load_reads_mailbox :
    ¬ ∀ (s : Rv32iState) (env : CoprocEnv), OnFlatCard s env.bus →
      (∀ a ∈ rv32iAccesses s env.bus.ram, a.addr < env.bus.ramSize) → FlatAgrees s env := by
  intro h
  have hagree := h (flatCore 0x10000) (.filled (flatBus 0x00008103) 0) ⟨rfl, rfl, rfl, rfl⟩
    (by decide)
  exact absurd (congrArg (fun out => out.1.2.x 2) hagree) (by decide)

end RpcEmu
