import RpcEmu.Mmu.Coherent

/-!
# A host pointer reaches what the physical access reaches

The slow paths decode a physical *page*; the physical accesses decode an *address*.  They agree:
the page's host memory, at the address's offset, is the byte the address decodes to
(`decode_of_readHost`).  For that the masks of the regions have to keep every offset bit and lie
inside the physical space, and the framestore has to be made of whole pages.
-/

namespace RpcEmu.Mmu

open Bytes Pages

section Masks

variable (cfg : Config)

lemma physSpaceMask_cases : physSpaceMask cfg = 0x3fffffff ∨ physSpaceMask cfg = 0x1fffffff := by
  unfold physSpaceMask
  split
  · exact .inl rfl
  · exact .inr rfl

lemma physSpaceMask_and {m : UInt32} (h : 0x7ffffff &&& m = m) : physSpaceMask cfg &&& m = m := by
  have h27 : physSpaceMask cfg &&& 0x7ffffff = 0x7ffffff := by
    rcases physSpaceMask_cases cfg with hm | hm <;> rw [hm] <;> decide
  rw [← h, ← UInt32.and_assoc, h27]

lemma memRammask_low : memRammask cfg &&& 0xfff = 0xfff := by
  obtain ⟨model, _, k, _, _⟩ := cfg
  simp only [memRammask, simm0, haveRam1, ramsize]
  cases model <;> revert k <;> decide

lemma memRammask_phys : physSpaceMask cfg &&& memRammask cfg = memRammask cfg := by
  apply physSpaceMask_and
  obtain ⟨model, _, k, _, _⟩ := cfg
  simp only [memRammask, simm0, haveRam1, ramsize]
  cases model <;> revert k <;> decide

lemma memVrammask_low (h : memVrammask cfg ≠ 0) : memVrammask cfg &&& 0xfff = 0xfff := by
  obtain ⟨_, _, _, v, _⟩ := cfg
  simp only [memVrammask] at h ⊢
  revert v
  decide

lemma memVrammask_phys : physSpaceMask cfg &&& memVrammask cfg = memVrammask cfg := by
  apply physSpaceMask_and
  obtain ⟨_, _, _, v, _⟩ := cfg
  simp only [memVrammask]
  revert v
  decide

lemma chunkMask_low : physSpaceMask cfg &&& 0xff000000 &&& 0xfff = 0 := by
  rcases physSpaceMask_cases cfg with hm | hm <;> rw [hm] <;> decide

lemma and_physSpaceMask {a : UInt32} (h : a.toNat < 2 ^ 28) : a &&& physSpaceMask cfg = a := by
  apply UInt32.toNat_inj.mp
  rcases physSpaceMask_cases cfg with hm | hm
  · have h30 : (0x3fffffff : UInt32).toNat = 2 ^ 30 - 1 := rfl
    rw [hm, UInt32.toNat_and, h30, Nat.and_two_pow_sub_one_eq_mod]
    omega
  · have h29 : (0x1fffffff : UInt32).toNat = 2 ^ 29 - 1 := rfl
    rw [hm, UInt32.toNat_and, h29, Nat.and_two_pow_sub_one_eq_mod]
    omega

lemma toNat_gfxcardFbPhys (h : cfg.gfxcardSlot.isSome = true) :
    ∃ k < 8, (gfxcardFbPhys cfg).toNat = 0x08100000 + k * 0x01000000 := by
  obtain ⟨slot, hslot⟩ := Option.isSome_iff_exists.mp h
  refine ⟨slot.val, slot.isLt, ?_⟩
  have hk := slot.isLt
  simp only [gfxcardFbPhys, hslot, UInt32.toNat_add, UInt32.toNat_mul, UInt32.reduceToNat,
    UInt32.toNat_ofNat']
  omega

end Masks

section Decode

variable {cfg : Config} {fr : UInt32}

lemma chunk_page (hfr : frame fr = fr) (b : UInt32) :
    chunk cfg ((fr ||| low b) &&& physSpaceMask cfg) = chunk cfg fr := by
  have hmask : physSpaceMask cfg &&& (physSpaceMask cfg &&& 0xff000000) =
      physSpaceMask cfg &&& 0xff000000 := by
    rw [← UInt32.and_assoc, UInt32.and_self]
  have hpage := frame_or_and_high (chunkMask_low cfg) fr b
  rw [hfr] at hpage
  rw [chunk, chunk, UInt32.and_assoc, hmask, hpage]

lemma masked_page (hfr : frame fr = fr) {m : UInt32} (hlow : m &&& 0xfff = 0xfff)
    (hphys : physSpaceMask cfg &&& m = m) (b : UInt32) :
    (fr ||| low b) &&& physSpaceMask cfg &&& m = (fr &&& m) + low b := by
  have hpage := frame_or_and hlow fr b
  rw [hfr] at hpage
  rw [UInt32.and_assoc, hphys, hpage]

lemma framestore_page (hfr : frame fr = fr) (hin : inFramestore cfg fr = true) (b : UInt32) :
    (fr ||| low b) &&& physSpaceMask cfg = fr + low b ∧ inFramestore cfg (fr + low b) = true ∧
      fr + low b - gfxcardFbPhys cfg = (fr - gfxcardFbPhys cfg) + low b := by
  simp only [inFramestore, Bool.and_eq_true, decide_eq_true_eq] at hin
  obtain ⟨hsome, hlt⟩ := hin
  obtain ⟨k, hk, hfb⟩ := toNat_gfxcardFbPhys cfg hsome
  have hsize : gfxcardFbSize.toNat = 0xf00000 := rfl
  have hlow := toNat_low b
  have hfr' := toNat_frame fr
  rw [hfr] at hfr'
  have hfrlt := fr.toNat_lt
  rw [UInt32.lt_iff_toNat_lt, UInt32.toNat_sub, hfb, hsize] at hlt
  -- the page starts inside the framestore, so it ends inside it
  have hsum : (fr + low b).toNat = fr.toNat + b.toNat % 4096 := by
    rw [UInt32.toNat_add, hlow]
    omega
  refine ⟨?_, ?_, ?_⟩
  · have hadd : fr ||| low b = fr + low b := by
      rw [← hfr, frame_add_low]
    rw [hadd]
    apply and_physSpaceMask
    omega
  · simp only [inFramestore, hsome, Bool.true_and, decide_eq_true_eq]
    rw [UInt32.lt_iff_toNat_lt, UInt32.toNat_sub, hfb, hsize, hsum]
    omega
  · apply UInt32.toNat_inj.mp
    rw [UInt32.toNat_sub, UInt32.toNat_add (fr - _), UInt32.toNat_sub, hfb, hsum, hlow]
    omega

lemma romMask_page (hfr : frame fr = fr) : fr &&& 0x7fffff = fr &&& 0x7ff000 := by
  have hmask : (0xfffff000 : UInt32) &&& 0x7fffff = 0x7ff000 := by decide
  have hand : frame fr &&& 0x7fffff = fr &&& 0x7ff000 := by
    rw [frame, UInt32.and_assoc, hmask]
  rwa [hfr] at hand

/-- **A page's host memory, at an address's offset, is what the address decodes to.** -/
theorem decode_of_readHost {e : HostPage} (h : readHost cfg fr = some e) (hfr : frame fr = fr)
    (b : UInt32) :
    decode cfg ((fr ||| low b) &&& physSpaceMask cfg) = .memory e.region (e.base + low b) := by
  unfold decode
  rw [chunk_page hfr]
  unfold readHost at h
  cases hc : chunk cfg fr with
  | rom =>
    simp only [hc, Option.some.injEq] at h
    subst h
    simp only
    rw [masked_page hfr (by decide) (physSpaceMask_and cfg (by decide)), romMask_page hfr]
  | vram =>
    simp only [hc] at h
    split at h
    · rename_i hv
      cases h
      simp only [hv, if_false]
      rw [masked_page hfr (memVrammask_low cfg hv) (memVrammask_phys cfg)]
    · cases h
  | easi =>
    simp only [hc] at h
    split at h
    · rename_i hin
      cases h
      obtain ⟨hmask, hin', hsub⟩ := framestore_page hfr hin b
      simp only [hmask, hin', if_true, hsub]
    · cases h
  | simm0Bank0 =>
    simp only [hc, Option.some.injEq] at h
    subst h
    simp only
    rw [masked_page hfr (memRammask_low cfg) (memRammask_phys cfg)]
  | simm0Bank1 =>
    simp only [hc, Option.some.injEq] at h
    subst h
    simp only
    rw [masked_page hfr (memRammask_low cfg) (memRammask_phys cfg)]
  | simm1 =>
    simp only [hc] at h
    split at h
    · rename_i hram
      cases h
      simp only [hram, if_true, simm1Mask]
      rw [masked_page hfr (by decide) (physSpaceMask_and cfg (by decide))]
    · cases h
  | sdram0 =>
    simp only [hc] at h
    split at h
    · rename_i hram
      cases h
      simp only [hram, if_true, sdramBankMask]
      rw [masked_page hfr (by decide) (physSpaceMask_and cfg (by decide))]
    · cases h
  | sdram1 =>
    simp only [hc] at h
    split at h
    · rename_i hram
      cases h
      simp only [hram, if_true, sdramBankMask]
      rw [masked_page hfr (by decide) (physSpaceMask_and cfg (by decide))]
    · cases h
  | io =>
    rw [hc] at h
    cases h
  | unused =>
    rw [hc] at h
    cases h

lemma readHost_of_writeHost {e : HostPage} {q : UInt32} (h : writeHost cfg fr fr = some (e, q)) :
    readHost cfg fr = some e ∧ e.region ≠ .rom := by
  unfold writeHost at h
  unfold readHost
  cases hc : chunk cfg fr <;> simp only [hc] at h ⊢ <;> (try split_ifs at h ⊢) <;> cases h <;>
    exact ⟨rfl, nofun⟩

lemma readHost_base {e : HostPage} (h : readHost cfg fr = some e) (hfr : frame fr = fr) :
    frame e.base = e.base := by
  have hand : ∀ m, frame (fr &&& m) = fr &&& m := by
    intro m
    rw [frame_and, hfr]
  unfold readHost at h
  cases hc : chunk cfg fr with
  | easi =>
    simp only [hc] at h
    split at h
    · rename_i hin
      cases h
      simp only [inFramestore, Bool.and_eq_true, decide_eq_true_eq] at hin
      obtain ⟨k, hk, hfb⟩ := toNat_gfxcardFbPhys cfg hin.1
      have hlt := hin.2
      have hsize : gfxcardFbSize.toNat = 0xf00000 := rfl
      have hfr' := toNat_frame fr
      rw [hfr] at hfr'
      have hfrlt := fr.toNat_lt
      rw [UInt32.lt_iff_toNat_lt, UInt32.toNat_sub, hfb, hsize] at hlt
      apply UInt32.toNat_inj.mp
      rw [toNat_frame, UInt32.toNat_sub, hfb]
      omega
    · cases h
  | _ =>
    simp only [hc] at h
    try split_ifs at h
    all_goals cases h
    all_goals exact hand _

/-! ## The accesses -/

variable {D : Type} {io : Devices D} {m : Memory} {d : D} {e : HostPage}

lemma memPhysRead8_of_readHost (h : readHost cfg fr = some e) (hfr : frame fr = fr) (addr : UInt32) :
    memPhysRead8 cfg io m d (fr ||| low addr) =
      ((m e.region (e.base + low addr)).toUInt32, d) := by
  simp only [memPhysRead8, decode_of_readHost h hfr]

lemma memPhysRead32_of_readHost (h : readHost cfg fr = some e) (hfr : frame fr = fr) {addr : UInt32}
    (ha : addr &&& 3 = 0) :
    memPhysRead32 cfg io m d (fr ||| low addr) = ((m e.region).word (e.base + low addr), d) := by
  have hword := add_low_and_of_aligned (readHost_base h hfr) ha
  simp only [memPhysRead32, decode_of_readHost h hfr]
  cases e.region <;> simp only [hword]

lemma memPhysRead32_memory {addr off : UInt32} {r : Region}
    (h : decode cfg (addr &&& physSpaceMask cfg) = .memory r off) (d' : D) :
    (memPhysRead32 cfg io m d addr).1 = (memPhysRead32 cfg io m d' addr).1 := by
  simp only [memPhysRead32, h]
  cases r <;> rfl

lemma memPhysRead8_memory {addr off : UInt32} {r : Region}
    (h : decode cfg (addr &&& physSpaceMask cfg) = .memory r off) (d' : D) :
    (memPhysRead8 cfg io m d addr).1 = (memPhysRead8 cfg io m d' addr).1 := by
  simp only [memPhysRead8, h]

lemma memPhysWrite32_memory (addr val : UInt32) (d' : D) :
    (memPhysWrite32 cfg io m d addr val).1 = (memPhysWrite32 cfg io m d' addr val).1 := by
  simp only [memPhysWrite32]
  split <;> rfl

lemma memPhysWrite8_memory (addr : UInt32) (val : UInt8) (d' : D) :
    (memPhysWrite8 cfg io m d addr val).1 = (memPhysWrite8 cfg io m d' addr val).1 := by
  simp only [memPhysWrite8]
  split <;> rfl

lemma memPhysWrite8_of_writeHost {q : UInt32} (h : writeHost cfg fr fr = some (e, q))
    (hfr : frame fr = fr) (addr : UInt32) (val : UInt8) :
    memPhysWrite8 cfg io m d (fr ||| low addr) val =
      (Function.update m e.region ((m e.region).set (e.base + low addr) val), d) := by
  obtain ⟨hread, hrom⟩ := readHost_of_writeHost h
  simp only [memPhysWrite8, decode_of_readHost hread hfr]

lemma memPhysWrite32_of_writeHost {q : UInt32} (h : writeHost cfg fr fr = some (e, q))
    (hfr : frame fr = fr) {addr : UInt32} (ha : addr &&& 3 = 0) (val : UInt32) :
    memPhysWrite32 cfg io m d (fr ||| low addr) val =
      (Function.update m e.region ((m e.region).setWord (e.base + low addr) val), d) := by
  obtain ⟨hread, hrom⟩ := readHost_of_writeHost h
  have hword := add_low_and_of_aligned (readHost_base hread hfr) ha
  simp only [memPhysWrite32, decode_of_readHost hread hfr]
  cases hr : e.region <;> simp only [ne_eq, hr, not_true_eq_false, hword] at hrom ⊢

end Decode

end RpcEmu.Mmu
