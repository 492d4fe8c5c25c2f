import Mathlib.Data.Nat.Bitwise
import RpcEmu.Mmu.HostPages

/-!
# The decoders of physical memory

The map of physical memory is written out again wherever a host pointer is wanted: for the
debugger's reads, for instruction fetch, for DMA, for the translation table.  This file has those
switches as the source has them and says when they find the cell that `mem_phys_read32` finds.

**Narrow decoders** cut the address to `phys_space_mask`, 29 or 30 bits by the machine:
`mem_phys_read8`, `mem_phys_read8_debug`, `mem_debug_host_ptr` and the fast maps of `readmemfl`.

**Wide decoders** keep 30 bits on every machine: `getpccache`, `mem_dma_region` and the two decodes
of the translation table base.  On a 29-bit machine they take bit 29 for the Kinetic's SDRAM, which
such a machine does not have.

The translation table's decodes have no case for the ROM.
-/

namespace RpcEmu.Mmu

open Bytes Pages

section Decoders

variable (cfg : Config)

/-- `mem_phys_read8_debug`. -/
def memPhysRead8Debug (m : Memory) (addr : UInt32) : UInt32 :=
  let addr := addr &&& physSpaceMask cfg
  match chunk cfg addr with
  | .rom => (m .rom (addr &&& 0x7fffff)).toUInt32
  | .vram => if memVrammask cfg = 0 then 0 else (m .vram (addr &&& memVrammask cfg)).toUInt32
  | .simm0Bank0 => (m .ram00 (addr &&& memRammask cfg)).toUInt32
  | .simm0Bank1 => (m .ram01 (addr &&& memRammask cfg)).toUInt32
  | .simm1 => if haveRam1 cfg then (m .ram1 (addr &&& 0x7ffffff)).toUInt32 else 0
  | .sdram0 => if haveSdram cfg then (m .sdram0 (addr &&& sdramBankMask)).toUInt32 else 0
  | .sdram1 => if haveSdram cfg then (m .sdram1 (addr &&& sdramBankMask)).toUInt32 else 0
  | .io | .easi | .unused => 0

/-- The decode of `mem_debug_host_ptr`: the region and the place in it. -/
def debugHost (phys : UInt32) : Option (Region × UInt32) :=
  if inFramestore cfg phys then some (.fb, phys - gfxcardFbPhys cfg)
  else
    let masked := phys &&& physSpaceMask cfg
    match chunk cfg masked with
    | .rom => some (.rom, masked &&& 0x7fffff)
    | .vram => if memVrammask cfg ≠ 0 then some (.vram, masked &&& memVrammask cfg) else none
    | .simm0Bank0 => some (.ram00, masked &&& memRammask cfg)
    | .simm0Bank1 => some (.ram01, masked &&& memRammask cfg)
    | .simm1 => if haveRam1 cfg then some (.ram1, masked &&& 0x7ffffff) else none
    | .sdram0 => if haveSdram cfg then some (.sdram0, masked &&& sdramBankMask) else none
    | .sdram1 => if haveSdram cfg then some (.sdram1, masked &&& sdramBankMask) else none
    | .io | .easi | .unused => none

/-- `switch (phys_addr & 0x3f000000)`. -/
def wideChunk (phys : UInt32) : Chunk := chunkCase ((phys &&& 0x3f000000) >>> 24)

/-- The decode of `getpccache`: the host memory behind a physical page. -/
def fetchHost (phys : UInt32) : Option HostPage :=
  match wideChunk phys with
  | .rom => some ⟨.rom, phys &&& 0x7ff000⟩
  | .vram => some ⟨.vram, phys &&& memVrammask cfg⟩
  | .simm0Bank0 => some ⟨.ram00, phys &&& memRammask cfg⟩
  | .simm0Bank1 => some ⟨.ram01, phys &&& memRammask cfg⟩
  | .simm1 => if haveRam1 cfg then some ⟨.ram1, phys &&& 0x7ffffff⟩ else none
  | .sdram0 => if haveSdram cfg then some ⟨.sdram0, phys &&& 0x7ffffff⟩ else none
  | .sdram1 => if haveSdram cfg then some ⟨.sdram1, phys &&& 0x7ffffff⟩ else none
  | .io | .easi | .unused => none

/-- `mem_dma_region`: the region, if there is one, and the mask for addresses in it. -/
def memDmaRegion (phys : UInt32) : Option Region × UInt32 :=
  match wideChunk phys with
  | .simm0Bank0 => (some .ram00, memRammask cfg)
  | .simm0Bank1 => (some .ram01, memRammask cfg)
  | .simm1 => (if haveRam1 cfg then some .ram1 else none, simm1Mask)
  | .sdram0 => (if haveSdram cfg then some .sdram0 else none, sdramBankMask)
  | .sdram1 => (if haveSdram cfg then some .sdram1 else none, sdramBankMask)
  | .rom | .vram | .io | .easi | .unused => (none, memRammask cfg)

/-- The translation table's memory as `cp15_loadstate` derives it again. -/
def tlbramLoaded (old : Option (Region × UInt32)) (table : UInt32) : Option (Region × UInt32) :=
  let bank := table &&& 0x3f000000
  if bank = 0x02000000 then some (.vram, memVrammask cfg >>> 2)
  else if 0x10000000 ≤ bank ∧ bank ≤ 0x13000000 then some (.ram00, memRammask cfg >>> 2)
  else if 0x14000000 ≤ bank ∧ bank ≤ 0x17000000 then some (.ram01, memRammask cfg >>> 2)
  else if 0x18000000 ≤ bank ∧ bank ≤ 0x1f000000 then
    if haveRam1 cfg then some (.ram1, (0x7ffffff : UInt32) >>> 2) else none
  else if 0x20000000 ≤ bank ∧ bank ≤ 0x2f000000 then
    if haveSdram cfg then some (.sdram0, (0x7ffffff : UInt32) >>> 2) else none
  else if 0x30000000 ≤ bank ∧ bank ≤ 0x3f000000 then
    if haveSdram cfg then some (.sdram1, (0x7ffffff : UInt32) >>> 2) else none
  else old

/-- The physical page `getpccache` fetches from, `none` after a fault. -/
def fetchPhys {D : Type} (io : Devices D) (s : Machine cfg D) (addr : UInt32) :
    Option (Option UInt32 × Machine cfg D) :=
  if mmuOn s then
    (translateaddress io s addr false true).map fun r =>
      if r.2.abort then (none, { r.2 with abort := false }) else (some r.1, r.2)
  else some (some addr, s)

lemma getpccache_eq {D : Type} (io : Devices D) (s : Machine cfg D) (addr : UInt32) :
    getpccache io s addr = (fetchPhys cfg io s (frame addr)).map fun r =>
      match r.1 with
      | none => (none, r.2)
      | some phys =>
        (fetchHost cfg phys,
          { r.2 with writeMap := fun m => (r.2.writeMap m).erase (page (frame addr)) }) := by
  simp only [getpccache, fetchPhys]
  congr 1
  funext r
  rcases r with ⟨_ | phys, t⟩
  · rfl
  · simp only [fetchHost, wideChunk]
    cases chunkCase ((phys &&& 0x3f000000) >>> 24) <;> rfl

end Decoders

/-! ## One table behind the switches -/

section Table

variable (cfg : Config)

def fitted : Chunk → Option Region
  | .rom => some .rom
  | .vram => if memVrammask cfg ≠ 0 then some .vram else none
  | .simm0Bank0 => some .ram00
  | .simm0Bank1 => some .ram01
  | .simm1 => if haveRam1 cfg then some .ram1 else none
  | .sdram0 => if haveSdram cfg then some .sdram0 else none
  | .sdram1 => if haveSdram cfg then some .sdram1 else none
  | .io | .easi | .unused => none

def regionMask : Region → UInt32
  | .rom => 0x7fffff
  | .vram => memVrammask cfg
  | .ram00 | .ram01 => memRammask cfg
  | .ram1 => simm1Mask
  | .sdram0 | .sdram1 => sdramBankMask
  | .fb => 0

variable {cfg} {addr off : UInt32} {r : Region} {c : Chunk}

lemma fitted_some (h : fitted cfg c = some r) : r ≠ .fb ∧ (r = .vram → memVrammask cfg ≠ 0) := by
  cases c with
  | vram =>
    simp only [fitted] at h
    split at h
    · rename_i hv
      cases h
      exact ⟨nofun, fun _ => hv⟩
    · cases h
  | _ =>
    simp only [fitted] at h
    (try split at h) <;> cases h <;> exact ⟨nofun, nofun⟩

lemma regionMask_low (h : fitted cfg c = some r) : regionMask cfg r &&& 0xfff = 0xfff := by
  obtain ⟨hfb, hvram⟩ := fitted_some h
  cases r with
  | fb => exact absurd rfl hfb
  | vram => exact memVrammask_low cfg (hvram rfl)
  | ram00 | ram01 => exact memRammask_low cfg
  | rom => exact (by decide : (0x7fffff : UInt32) &&& 0xfff = 0xfff)
  | ram1 | sdram0 | sdram1 => exact (by decide : (0x7ffffff : UInt32) &&& 0xfff = 0xfff)

lemma regionMask_phys (cfg : Config) (r : Region) :
    physSpaceMask cfg &&& regionMask cfg r = regionMask cfg r := by
  cases r with
  | vram => exact memVrammask_phys cfg
  | ram00 | ram01 => exact memRammask_phys cfg
  | rom => exact physSpaceMask_and cfg (by decide : (0x7ffffff : UInt32) &&& 0x7fffff = 0x7fffff)
  | ram1 | sdram0 | sdram1 =>
    exact physSpaceMask_and cfg (by decide : (0x7ffffff : UInt32) &&& 0x7ffffff = 0x7ffffff)
  | fb => exact UInt32.and_zero

lemma chunk_physSpaceMask (addr : UInt32) :
    chunk cfg (addr &&& physSpaceMask cfg) = chunk cfg addr := by
  rw [chunk, chunk, UInt32.and_assoc, ← UInt32.and_assoc (physSpaceMask cfg), UInt32.and_self]

lemma regionMask_physSpaceMask (addr : UInt32) (r : Region) :
    addr &&& physSpaceMask cfg &&& regionMask cfg r = addr &&& regionMask cfg r := by
  rw [UInt32.and_assoc, regionMask_phys]

def narrow (cfg : Config) (addr : UInt32) : Option (Region × UInt32) :=
  (fitted cfg (chunk cfg addr)).map fun r => (r, addr &&& regionMask cfg r)

/-- **The decode of `mem_phys_read32`**, off the framestore, is the table. -/
lemma narrow_of_decode (hr : r ≠ .fb)
    (h : decode cfg (addr &&& physSpaceMask cfg) = .memory r off) :
    narrow cfg addr = some (r, off) := by
  have hmask := @regionMask_physSpaceMask cfg addr
  unfold decode at h
  rw [chunk_physSpaceMask] at h
  unfold narrow
  cases hc : chunk cfg addr with
  | easi =>
    simp only [hc] at h
    split at h
    · cases h
      exact absurd rfl hr
    · cases h
  | io | unused =>
    simp only [hc] at h
    cases h
  | rom | simm0Bank0 | simm0Bank1 =>
    simp only [hc] at h
    cases h
    simp only [fitted, Option.map_some]
    rw [← hmask]
    rfl
  | vram =>
    simp only [hc] at h
    split at h
    · cases h
    · rename_i hv
      cases h
      simp only [fitted, ne_eq, hv, not_false_eq_true, if_true, Option.map_some]
      rw [← hmask]
      rfl
  | simm1 | sdram0 | sdram1 =>
    simp only [hc] at h
    split at h
    · rename_i hfit
      cases h
      simp only [fitted, hfit, if_true, Option.map_some]
      rw [← hmask]
      rfl
    · cases h

/-! ### Narrow decoders -/

lemma memPhysRead8Debug_of_narrow (h : narrow cfg addr = some (r, off)) (m : Memory) :
    memPhysRead8Debug cfg m addr = (m r off).toUInt32 := by
  have hmask := @regionMask_physSpaceMask cfg addr
  simp only [memPhysRead8Debug, chunk_physSpaceMask]
  unfold narrow at h
  cases hc : chunk cfg addr with
  | easi | io | unused =>
    simp only [hc, fitted, Option.map_none] at h
    cases h
  | rom | simm0Bank0 | simm0Bank1 =>
    simp only [hc, fitted, Option.map_some] at h
    cases h
    rw [← hmask]
    rfl
  | vram =>
    simp only [hc, fitted] at h
    split at h
    · rename_i hv
      cases h
      rw [← hmask, if_neg hv]
      rfl
    · cases h
  | simm1 | sdram0 | sdram1 =>
    simp only [hc, fitted] at h
    split at h
    · rename_i hfit
      cases h
      rw [← hmask]
      simp only [hfit, if_true]
      rfl
    · cases h

lemma toNat_chunkNumber {m : UInt32} {k : Nat} (hm : (m >>> 24).toNat = 2 ^ k - 1) (a : UInt32) :
    ((a &&& m) >>> 24).toNat = a.toNat / 2 ^ 24 % 2 ^ k := by
  have hand : (a &&& m) >>> 24 = (a >>> 24) &&& (m >>> 24) := by
    apply UInt32.toNat_inj.mp
    simp only [UInt32.toNat_shiftRight, UInt32.toNat_and, Nat.shiftRight_and_distrib]
  rw [hand, UInt32.toNat_and, hm, Nat.and_two_pow_sub_one_eq_mod, UInt32.toNat_shiftRight,
    show (24 : UInt32).toNat % 32 = 24 from rfl, Nat.shiftRight_eq_div_pow]

lemma chunkCase_easi {n : UInt32} (hlo : 0x08 ≤ n.toNat) (hhi : n.toNat ≤ 0x0f) :
    chunkCase n = .easi := by
  simp only [chunkCase, ← UInt32.toNat_inj, UInt32.le_iff_toNat_le, UInt32.reduceToNat]
  split_ifs <;> first | rfl | omega

lemma chunk_of_inFramestore (h : inFramestore cfg addr = true) : chunk cfg addr = .easi := by
  simp only [inFramestore, Bool.and_eq_true, decide_eq_true_eq] at h
  obtain ⟨hsome, hlt⟩ := h
  obtain ⟨k, hk, hfb⟩ := toNat_gfxcardFbPhys cfg hsome
  have hsize : gfxcardFbSize.toNat = 0xf00000 := rfl
  have haddr := addr.toNat_lt
  rw [UInt32.lt_iff_toNat_lt, UInt32.toNat_sub, hfb, hsize] at hlt
  have hphys : addr &&& (physSpaceMask cfg &&& 0xff000000) = addr &&& 0xff000000 := by
    rw [← UInt32.and_assoc, and_physSpaceMask cfg (by omega)]
  have hnum := toNat_chunkNumber (m := 0xff000000) (k := 8) (by decide) addr
  rw [chunk, hphys]
  exact chunkCase_easi (by omega) (by omega)

lemma debugHost_of_narrow (h : narrow cfg addr = some (r, off)) :
    debugHost cfg addr = some (r, off) := by
  have hmask := @regionMask_physSpaceMask cfg addr
  have hfb : inFramestore cfg addr = false := by
    by_contra hin
    rw [Bool.not_eq_false] at hin
    rw [narrow, chunk_of_inFramestore hin] at h
    cases h
  simp only [debugHost, hfb, Bool.false_eq_true, if_false, chunk_physSpaceMask]
  rw [← h]
  unfold narrow
  cases chunk cfg addr with
  | easi | io | unused => rfl
  | rom | simm0Bank0 | simm0Bank1 =>
    simp only [fitted, Option.map_some]
    rw [← hmask]
    rfl
  | vram | simm1 | sdram0 | sdram1 =>
    simp only [fitted]
    split
    · rw [Option.map_some, ← hmask]
      rfl
    · rfl

/-- The page holds this place of the region. -/
def HostPage.At (e : HostPage) (addr : UInt32) (r : Region) (off : UInt32) : Prop :=
  e.region = r ∧ e.base + low addr = off

lemma frame_regionMask (h : fitted cfg c = some r) (addr : UInt32) :
    (frame addr &&& regionMask cfg r) + low addr = addr &&& regionMask cfg r := by
  rw [← frame_or_and (regionMask_low h), frame_or_low]

lemma chunk_frame (addr : UInt32) : chunk cfg (frame addr) = chunk cfg addr := by
  have h := @chunk_page cfg (frame addr) (frame_frame addr) addr
  rw [frame_or_low, chunk_physSpaceMask] at h
  exact h.symm

lemma narrow_some (h : narrow cfg addr = some (r, off)) :
    fitted cfg (chunk cfg addr) = some r ∧ addr &&& regionMask cfg r = off := by
  obtain ⟨r', hr', heq⟩ := Option.map_eq_some_iff.mp h
  cases heq
  exact ⟨hr', rfl⟩

lemma readHost_of_narrow (h : narrow cfg addr = some (r, off)) :
    ∃ e, readHost cfg (frame addr) = some e ∧ e.At addr r off := by
  obtain ⟨hfit, rfl⟩ := narrow_some h
  refine ⟨⟨r, frame addr &&& regionMask cfg r⟩, ?_, rfl, frame_regionMask hfit addr⟩
  unfold readHost
  rw [chunk_frame]
  cases hc : chunk cfg addr with
  | easi | io | unused =>
    rw [hc] at hfit
    cases hfit
  | rom =>
    rw [hc] at hfit
    cases hfit
    simp only [regionMask, romMask_page (frame_frame addr)]
  | simm0Bank0 | simm0Bank1 =>
    rw [hc] at hfit
    cases hfit
    rfl
  | vram | simm1 | sdram0 | sdram1 =>
    simp only [hc, fitted] at hfit
    split at hfit
    · rename_i hcond
      cases hfit
      simp only
      rw [if_pos hcond]
      rfl
    · cases hfit

lemma readHostOff_of_narrow (h : narrow cfg addr = some (r, off)) {e : HostPage}
    (he : readHostOff cfg addr = some e) : e.At addr r off := by
  obtain ⟨hfit, rfl⟩ := narrow_some h
  have hbase : (addr &&& regionMask cfg r &&& ~~~(0xfff : UInt32)) + low addr =
      addr &&& regionMask cfg r := by
    have hpage : addr &&& regionMask cfg r &&& ~~~(0xfff : UInt32) =
        frame addr &&& regionMask cfg r := by
      rw [← frame_and]
      rfl
    rw [hpage, frame_regionMask hfit]
  unfold readHostOff at he
  cases hc : chunk cfg addr with
  | easi | io | unused | rom =>
    rw [hc] at he
    cases he
  | simm0Bank0 | simm0Bank1 =>
    rw [hc] at he hfit
    cases he
    cases hfit
    exact ⟨rfl, hbase⟩
  | vram | simm1 | sdram0 | sdram1 =>
    simp only [hc, fitted] at he hfit
    split at he
    · rename_i hcond
      rw [if_pos hcond] at hfit
      cases he
      cases hfit
      exact ⟨rfl, hbase⟩
    · cases he

/-! ### Wide decoders -/

/-- The machine decodes thirty bits. -/
def Decodes30 (cfg : Config) : Prop := cfg.model = .phoebe ∨ cfg.model = .kinetic

instance (cfg : Config) : Decidable (Decodes30 cfg) := inferInstanceAs (Decidable (_ ∨ _))

lemma wideChunk_eq (h : Decodes30 cfg ∨ addr &&& 0x20000000 = 0) :
    wideChunk addr = chunk cfg addr := by
  unfold wideChunk chunk physSpaceMask
  split
  · rfl
  · rename_i hmodel
    have hbit : addr &&& 0x20000000 = 0 := h.resolve_left hmodel
    have hsplit : addr &&& (0x3f000000 : UInt32) =
        (addr &&& 0x1f000000) ||| (addr &&& 0x20000000) := by
      rw [show (0x3f000000 : UInt32) = 0x1f000000 ||| 0x20000000 by decide]
      apply ext_bit
      intro i _
      simp only [bit_and, bit_or, Bool.and_or_distrib_left]
    have hmask : (0x1fffffff : UInt32) &&& 0xff000000 = 0x1f000000 := by decide
    rw [hsplit, hbit, UInt32.or_zero, hmask]

lemma chunkCase_sdram {n : UInt32} (hlo : 0x20 ≤ n.toNat) (hhi : n.toNat ≤ 0x3f) :
    chunkCase n = .sdram0 ∨ chunkCase n = .sdram1 := by
  simp only [chunkCase, ← UInt32.toNat_inj, UInt32.le_iff_toNat_le, UInt32.reduceToNat]
  split_ifs <;> first | omega | simp

lemma wideChunk_sdram (h : ¬ (Decodes30 cfg ∨ addr &&& 0x20000000 = 0)) :
    haveSdram cfg = false ∧ (wideChunk addr = .sdram0 ∨ wideChunk addr = .sdram1) := by
  rw [not_or] at h
  have hsdram : haveSdram cfg = false := by
    have hk : cfg.model ≠ .kinetic := fun hk => h.1 (Or.inr hk)
    simp only [haveSdram, ramsize, ne_eq, hk, not_false_eq_true, true_and, decide_eq_false_iff_not]
    split <;> omega
  have hbit : addr.toNat / 2 ^ 29 % 2 = 1 := by
    by_contra hne
    apply h.2
    apply UInt32.toNat_inj.mp
    rw [UInt32.toNat_and, show (0x20000000 : UInt32).toNat = 2 ^ 29 from rfl, Nat.and_two_pow,
      Nat.testBit_eq_decide_div_mod_eq, decide_eq_false hne]
    rfl
  have hnum := toNat_chunkNumber (m := 0x3f000000) (k := 6) (by decide) addr
  have hlt := addr.toNat_lt
  exact ⟨hsdram, chunkCase_sdram (by omega) (by omega)⟩

lemma wideChunk_and {m : UInt32} (hm : m &&& 0x3f000000 = 0x3f000000) (addr : UInt32) :
    wideChunk (addr &&& m) = wideChunk addr := by
  rw [wideChunk, wideChunk, UInt32.and_assoc, hm]

lemma fetchHost_of_fitted (h : fitted cfg (wideChunk addr) = some r) :
    ∃ e, fetchHost cfg (frame addr) = some e ∧ e.At addr r (addr &&& regionMask cfg r) := by
  refine ⟨⟨r, frame addr &&& regionMask cfg r⟩, ?_, rfl, frame_regionMask h addr⟩
  unfold fetchHost
  rw [frame, wideChunk_and (by decide)]
  cases hc : wideChunk addr with
  | easi | io | unused =>
    rw [hc] at h
    cases h
  | rom =>
    rw [hc] at h
    cases h
    exact congrArg (fun a => some (HostPage.mk .rom a)) (romMask_page (frame_frame addr)).symm
  | simm0Bank0 | simm0Bank1 =>
    rw [hc] at h
    cases h
    rfl
  | vram =>
    simp only [hc, fitted] at h
    split at h
    · cases h
      rfl
    · cases h
  | simm1 | sdram0 | sdram1 =>
    simp only [hc, fitted] at h
    split at h
    · rename_i hcond
      cases h
      simp only
      rw [if_pos hcond]
      rfl
    · cases h

lemma fetchHost_none (h : ¬ (Decodes30 cfg ∨ addr &&& 0x20000000 = 0)) :
    fetchHost cfg (frame addr) = none := by
  obtain ⟨hsdram, hc⟩ := wideChunk_sdram h
  unfold fetchHost
  rw [frame, wideChunk_and (by decide)]
  rcases hc with hc | hc
  · simp only [hc, hsdram, Bool.false_eq_true, if_false]
  · simp only [hc, hsdram, Bool.false_eq_true, if_false]

/-- The region is main memory. -/
def Region.IsRam (r : Region) : Prop := r ≠ .rom ∧ r ≠ .vram ∧ r ≠ .fb

lemma memDmaRegion_of_fitted (h : fitted cfg (wideChunk addr) = some r) (hram : r.IsRam) :
    memDmaRegion cfg addr = (some r, regionMask cfg r) := by
  obtain ⟨hrom, hvram, -⟩ := hram
  unfold memDmaRegion
  cases hc : wideChunk addr with
  | easi | io | unused =>
    rw [hc] at h
    cases h
  | rom =>
    rw [hc] at h
    cases h
    exact absurd rfl hrom
  | vram =>
    simp only [hc, fitted] at h
    split at h
    · cases h
      exact absurd rfl hvram
    · cases h
  | simm0Bank0 | simm0Bank1 =>
    rw [hc] at h
    cases h
    rfl
  | simm1 | sdram0 | sdram1 =>
    simp only [hc, fitted] at h
    split at h
    · rename_i hcond
      cases h
      simp only
      rw [if_pos hcond]
      rfl
    · cases h

/-! ### The translation table -/

lemma bank_cases : ∀ n : Fin 64, ∀ bank : UInt32, bank = UInt32.ofNat (n.val * 2 ^ 24) →
    (bank = 0x02000000 ↔ chunkCase (bank >>> 24) = .vram) ∧
    (0x10000000 ≤ bank ∧ bank ≤ 0x13000000 ↔ chunkCase (bank >>> 24) = .simm0Bank0) ∧
    (0x14000000 ≤ bank ∧ bank ≤ 0x17000000 ↔ chunkCase (bank >>> 24) = .simm0Bank1) ∧
    (0x18000000 ≤ bank ∧ bank ≤ 0x1f000000 ↔ chunkCase (bank >>> 24) = .simm1) ∧
    (0x20000000 ≤ bank ∧ bank ≤ 0x2f000000 ↔ chunkCase (bank >>> 24) = .sdram0) ∧
    (0x30000000 ≤ bank ∧ bank ≤ 0x3f000000 ↔ chunkCase (bank >>> 24) = .sdram1) := by
  simp only [forall_eq]
  decide

lemma bank_eq (table : UInt32) :
    ∃ n : Fin 64, table &&& 0x3f000000 = UInt32.ofNat (n.val * 2 ^ 24) := by
  have hlow : (table &&& 0x3f000000).toNat % 2 ^ 24 = 0 := by
    have hzero : (table &&& 0x3f000000) &&& 0xffffff = 0 := by
      rw [UInt32.and_assoc, show (0x3f000000 : UInt32) &&& 0xffffff = 0 by decide, UInt32.and_zero]
    rw [← Nat.and_two_pow_sub_one_eq_mod]
    exact congrArg UInt32.toNat hzero
  have hle : (table &&& 0x3f000000).toNat ≤ 0x3f000000 := by
    rw [UInt32.toNat_and]
    exact Nat.and_le_right
  refine ⟨⟨(table &&& 0x3f000000).toNat / 2 ^ 24, by omega⟩, ?_⟩
  apply UInt32.toNat_inj.mp
  simp only [UInt32.toNat_ofNat']
  omega

lemma tlbramLoaded_eq (old : Option (Region × UInt32)) (table : UInt32) :
    tlbramLoaded cfg old table = tlbramOf cfg old table := by
  obtain ⟨n, hn⟩ := bank_eq table
  obtain ⟨hvram, hbank0, hbank1, hsimm1, hsdram0, hsdram1⟩ := bank_cases n _ hn
  simp only [tlbramLoaded, hvram, hbank0, hbank1, hsimm1, hsdram0, hsdram1, tlbramOf]
  cases chunkCase ((table &&& 0x3f000000) >>> 24) <;> rfl

lemma tlbramOf_of_fitted {old : Option (Region × UInt32)}
    (h : fitted cfg (wideChunk addr) = some r) (hrom : r ≠ .rom) :
    tlbramOf cfg old addr = some (r, regionMask cfg r >>> 2) := by
  rw [tlbramOf, show chunkCase ((addr &&& 0x3f000000) >>> 24) = wideChunk addr from rfl]
  cases hc : wideChunk addr with
  | easi | io | unused =>
    rw [hc] at h
    cases h
  | rom =>
    rw [hc] at h
    cases h
    exact absurd rfl hrom
  | simm0Bank0 | simm0Bank1 =>
    rw [hc] at h
    cases h
    rfl
  | vram =>
    simp only [hc, fitted] at h
    split at h
    · cases h
      rfl
    · cases h
  | simm1 | sdram0 | sdram1 =>
    simp only [hc, fitted] at h
    split at h
    · rename_i hcond
      cases h
      simp only
      rw [if_pos hcond]
      rfl
    · cases h

lemma tlbramOf_rom {old : Option (Region × UInt32)} (h : fitted cfg (wideChunk addr) = some .rom) :
    tlbramOf cfg old addr = old := by
  have hc : wideChunk addr = .rom := by
    cases hc : wideChunk addr with
    | rom => rfl
    | _ =>
      simp only [hc, fitted] at h
      (try split at h) <;> cases h
  rw [wideChunk] at hc
  rw [tlbramOf, hc]

lemma tlbram_ne_rom (tables : List UInt32) {old : Option (Region × UInt32)} (m : UInt32)
    (hold : ∀ m, old ≠ some (.rom, m)) : tables.foldl (tlbramOf cfg) old ≠ some (.rom, m) := by
  induction tables generalizing old with
  | nil => exact hold m
  | cons table tables ih =>
    refine ih fun m => ?_
    unfold tlbramOf
    split <;> (try split) <;> first | exact hold m | nofun

lemma table_word (addr m : UInt32) : (addr >>> 2) &&& (m >>> 2) = (addr &&& m) >>> 2 := by
  apply UInt32.toNat_inj.mp
  simp only [UInt32.toNat_shiftRight, UInt32.toNat_and, Nat.shiftRight_and_distrib]

end Table

/-! ## Agreement -/

/-- **The decoders find one cell**: byte `off` of the region.  `old` is the memory the translation
table was in before. -/
structure Agree (cfg : Config) (old : Option (Region × UInt32)) (addr : UInt32) (r : Region)
    (off : UInt32) : Prop where
  /-- `mem_phys_read8`. -/
  read8 : ∀ (D : Type) (io : Devices D) (m : Memory) (d : D),
    memPhysRead8 cfg io m d addr = ((m r off).toUInt32, d)
  /-- `mem_phys_read8_debug`. -/
  read8Debug : ∀ m : Memory, memPhysRead8Debug cfg m addr = (m r off).toUInt32
  /-- `mem_debug_host_ptr`. -/
  hostPtr : debugHost cfg addr = some (r, off)
  /-- The page `readmemfl` enters in the fast maps. -/
  fastMap : ∃ e, readHost cfg (frame addr) = some e ∧ e.At addr r off
  /-- The same with the MMU off, where it enters one. -/
  fastMapOff : ∀ e, readHostOff cfg addr = some e → e.At addr r off
  /-- The page `getpccache` fetches from. -/
  fetch : ∃ e, fetchHost cfg (frame addr) = some e ∧ e.At addr r off
  /-- `mem_dma_region`, for RAM. -/
  dma : r.IsRam → ∃ mask, memDmaRegion cfg addr = (some r, mask) ∧ addr &&& mask = off
  /-- The translation table that holds the address, set by `cp15_write`. -/
  table : ∃ mask, tlbramOf cfg old (addr &&& ~~~0x3fff) = some (r, mask) ∧
    (addr >>> 2) &&& mask = off >>> 2
  /-- The same, loaded by `cp15_loadstate`. -/
  loaded : ∃ mask, tlbramLoaded cfg old (addr &&& ~~~0x3fff) = some (r, mask) ∧
    (addr >>> 2) &&& mask = off >>> 2

/-- **When the decoders agree.**  For every machine, every address that `mem_phys_read32` resolves to
RAM, VRAM or ROM and whatever table bases were set before, all the decoders find the same cell if and
only if the machine decodes 30 bits or bit 29 is clear, and the address is not in the ROM. -/
theorem decoders_agree_iff (cfg : Config) (tables : List UInt32) {addr off : UInt32} {r : Region}
    (h : decode cfg (addr &&& physSpaceMask cfg) = .memory r off) (hfb : r ≠ .fb) :
    Agree cfg (tables.foldl (tlbramOf cfg) none) addr r off ↔
      (Decodes30 cfg ∨ addr &&& 0x20000000 = 0) ∧ r ≠ .rom := by
  have hnarrow := narrow_of_decode hfb h
  obtain ⟨hfit, hoff⟩ := narrow_some hnarrow
  have htable : wideChunk (addr &&& ~~~0x3fff) = wideChunk addr := wideChunk_and (by decide) addr
  constructor
  · intro hagree
    have hwide : Decodes30 cfg ∨ addr &&& 0x20000000 = 0 := by
      by_contra hwide
      obtain ⟨e, he, -⟩ := hagree.fetch
      rw [fetchHost_none hwide] at he
      cases he
    refine ⟨hwide, ?_⟩
    rintro rfl
    obtain ⟨mask, hmask, -⟩ := hagree.table
    rw [← wideChunk_eq hwide, ← htable] at hfit
    rw [tlbramOf_rom hfit] at hmask
    exact tlbram_ne_rom tables mask (fun _ => by simp) hmask
  · rintro ⟨hwide, hrom⟩
    rw [← wideChunk_eq hwide] at hfit
    have hword : (addr >>> 2) &&& (regionMask cfg r >>> 2) = off >>> 2 := by rw [table_word, hoff]
    have hbase : ∀ old, tlbramOf cfg old (addr &&& ~~~0x3fff) = some (r, regionMask cfg r >>> 2) :=
      fun old => tlbramOf_of_fitted (htable ▸ hfit) hrom
    exact
      { read8 := fun D io m d => by simp only [memPhysRead8, h]
        read8Debug := memPhysRead8Debug_of_narrow hnarrow
        hostPtr := debugHost_of_narrow hnarrow
        fastMap := readHost_of_narrow hnarrow
        fastMapOff := fun e he => readHostOff_of_narrow hnarrow he
        fetch := hoff ▸ fetchHost_of_fitted hfit
        dma := fun hram => ⟨_, memDmaRegion_of_fitted hfit hram, hoff⟩
        table := ⟨_, hbase _, hword⟩
        loaded := ⟨_, (tlbramLoaded_eq _ _).trans (hbase _), hword⟩ }

def rpcConfig : Config where
  model := .rpcSA110
  cpuModel := .sa110
  ramDoublings := 4
  vramSize := 2
  gfxcardSlot := none

theorem decoders_agree_alias :
    decode rpcConfig (0x54000008 &&& physSpaceMask rpcConfig) = .memory .ram01 8 ∧
      Agree rpcConfig none 0x54000008 .ram01 8 := by
  have hdecode : decode rpcConfig (0x54000008 &&& physSpaceMask rpcConfig) = .memory .ram01 8 := by
    decide
  exact ⟨hdecode, (decoders_agree_iff rpcConfig [] hdecode (by decide)).mpr
    ⟨.inr (by decide), by decide⟩⟩

/-- **Where they do not**: `0x30000000` is the first bank of RAM to a read on a machine that decodes 29
bits, and nothing to an instruction fetch. -/
theorem alias_not_fetched :
    ¬ ∀ (cfg : Config) (tables : List UInt32) (addr off : UInt32) (r : Region),
      decode cfg (addr &&& physSpaceMask cfg) = .memory r off → r ≠ .fb →
        Agree cfg (tables.foldl (tlbramOf cfg) none) addr r off := by
  intro hall
  have hagree := hall rpcConfig [] 0x30000000 0 .ram00 (by decide) nofun
  obtain ⟨e, he, -⟩ := hagree.fetch
  rw [show fetchHost rpcConfig (frame 0x30000000) = none by decide] at he
  cases he

end RpcEmu.Mmu
