import RpcEmu.Mmu.OnePage

/-!
# Every step keeps the caches coherent

One lemma an operation: what the caches hold for a page after it, the walk grants, if that was so
before it.  The pages an access fills are those it was granted; with one answer per page
(`Uniform`) that is right for the other addresses of the page too.

* **Translation.**  `translateaddress_cases` says everything a translation can do.
* **Byte writes** to EASI space are the exception (`Misfiles`): they enter the page of the last *word*
  write.
* **One step** (`Coherent.step`), flushes included: they leave nothing to be wrong.
-/

namespace RpcEmu.Mmu

open Bytes Pages

section Translation

variable {D : Type} {cfg : Config} {io : Devices D} {H : Prop} {W : WalkFn} {p : UInt32}
  {s t : Machine cfg D} {addr phys : UInt32} {rw : IsWrite} {isPrefetch : Bool}

/-- **What a translation does**: use the TLB's entry, or walk and enter the page, or walk and fault. -/
lemma translateaddress_cases (h : translateaddress io s addr rw isPrefetch = some (phys, t)) :
    (∃ e, s.tlb.entry (page addr) = some e ∧ permits e.perm s.memmode rw = true ∧
      phys = e.paddr ||| low addr ∧ t = s) ∨
    (∃ perm, walk io s s.memmode addr rw = .granted phys perm ∧
      t = cp15TlbAddEntry { s with dev := (descend io s addr).2 } addr phys perm) ∨
    (∃ domain code fa fs, walk io s s.memmode addr rw = .refused domain code ∧ phys = 0 ∧
      t = { s with dev := (descend io s addr).2, abort := true, faultAddress := fa,
                   faultStatus := fs }) := by
  have hwalk : translateaddress2 io s addr rw isPrefetch = some (phys, t) →
      (∃ perm, walk io s s.memmode addr rw = .granted phys perm ∧
        t = cp15TlbAddEntry { s with dev := (descend io s addr).2 } addr phys perm) ∨
      (∃ domain code fa fs, walk io s s.memmode addr rw = .refused domain code ∧ phys = 0 ∧
        t = { s with dev := (descend io s addr).2, abort := true, faultAddress := fa,
                     faultStatus := fs }) := by
    intro h2
    unfold translateaddress2 at h2
    cases hw : walk io s s.memmode addr rw with
    | fatal =>
      rw [hw] at h2
      cases h2
    | granted phys' perm =>
      simp only [hw, Option.some.injEq, Prod.mk.injEq] at h2
      obtain ⟨rfl, rfl⟩ := h2
      exact .inl ⟨perm, rfl, rfl⟩
    | refused domain code =>
      simp only [hw, Option.some.injEq, Prod.mk.injEq] at h2
      obtain ⟨rfl, rfl⟩ := h2
      refine .inr ⟨domain, code, ?_⟩
      cases isPrefetch with
      | true => exact ⟨s.faultAddress, s.faultStatus, rfl, rfl, rfl⟩
      | false => exact ⟨addr, (domain <<< 4) ||| code, rfl, rfl, rfl⟩
  unfold translateaddress at h
  cases he : s.tlb.entry (page addr) with
  | none =>
    rw [he] at h
    exact .inr (hwalk h)
  | some e =>
    simp only [he] at h
    by_cases hperm : permits e.perm s.memmode rw = true
    · simp only [hperm, if_true, Option.some.injEq, Prod.mk.injEq] at h
      exact .inl ⟨e, rfl, hperm, h.1.symm, h.2.symm⟩
    · simp only [hperm] at h
      exact .inr (hwalk h)

/-- Nothing that a walk goes by or a cache holds has changed. -/
structure Untouched (s t : Machine cfg D) : Prop where
  mem : t.mem = s.mem
  ctrl : t.ctrl = s.ctrl
  domainAccessControl : t.domainAccessControl = s.domainAccessControl
  mode : t.mode = s.mode
  memmode : t.memmode = s.memmode
  pccache : t.pccache = s.pccache
  readMap : t.readMap = s.readMap
  writeMap : t.writeMap = s.writeMap
  memcacheMemmode : t.memcacheMemmode = s.memcacheMemmode
  translationTable : t.translationTable = s.translationTable
  tlbram : t.tlbram = s.tlbram
  memcache : t.memcache = s.memcache

lemma translateaddress_untouched (h : translateaddress io s addr rw isPrefetch = some (phys, t)) :
    Untouched s t := by
  rcases translateaddress_cases h with ⟨_, -, -, -, rfl⟩ | ⟨_, -, rfl⟩ | ⟨_, _, _, _, -, -, rfl⟩
  · exact ⟨rfl, rfl, rfl, rfl, rfl, rfl, rfl, rfl, rfl, rfl, rfl, rfl⟩
  · exact ⟨rfl, rfl, rfl, rfl, rfl, rfl, rfl, rfl, rfl, rfl, rfl, rfl⟩
  · exact ⟨rfl, rfl, rfl, rfl, rfl, rfl, rfl, rfl, rfl, rfl, rfl, rfl⟩

lemma Held.translate (h : Held H W p s) (hon : mmuOn s = true) (hW : walk io s = W)
    (hu : page addr = p → Uniform W p)
    (ht : translateaddress io s addr rw isPrefetch = some (phys, t)) : Held H W p t := by
  rcases translateaddress_cases ht with ⟨_, -, -, -, rfl⟩ | ⟨perm, hg, rfl⟩ |
    ⟨_, _, _, _, -, -, rfl⟩
  · exact h
  · have hd : Held H W p { s with dev := (descend io s addr).2 } := h.congr rfl rfl rfl rfl
    refine hd.tlbAdd hon fun hp m rw' hperm => ?_
    rw [hW] at hg
    exact (hu hp).grants hp ((hu hp).perm_granted hp hg hperm)
  · exact h.congr rfl rfl rfl rfl

lemma Held.translated (h : Held H W p s) (hW : walk io s = W) (hu : Uniform W p) (hp : page addr = p)
    (ht : translateaddress io s addr rw isPrefetch = some (phys, t)) (hab : t.abort = false) :
    Grants W p s.memmode rw (frame phys) := by
  rcases translateaddress_cases ht with ⟨e, he, hperm, rfl, rfl⟩ | ⟨perm, hg, rfl⟩ |
    ⟨_, _, _, _, -, -, rfl⟩
  · rw [hp] at he
    have hg := h.tlb e he _ _ hperm
    rwa [← hg.1, frame_frame_or, hg.1]
  · rw [hW] at hg
    exact hu.grants hp hg
  · cases hab

/-! ## The page caches -/

variable {c : CacheOf} {r : Option UInt32}

/-- **What the start of a slow path does**: use the page cache, or translate and fill it, or abort. -/
lemma cachedTranslate_cases (h : cachedTranslate io s c addr rw = some (r, t)) :
    ((s.memcache c).page = some (page addr) ∧ r = some ((s.memcache c).phys + low addr) ∧ t = s) ∨
    (∃ phys u, (s.memcache c).page ≠ some (page addr) ∧
      translateaddress io (setMemcache s c ⟨some (page addr), (s.memcache c).phys⟩) addr rw false =
        some (phys, u) ∧
      ((u.abort = true ∧ r = none ∧ t = setMemcache u c ⟨none, (s.memcache c).phys⟩) ∨
        (u.abort = false ∧ r = some phys ∧
          t = setMemcache u c ⟨some (page addr), frame phys⟩))) := by
  simp only [cachedTranslate] at h
  split at h
  · rename_i hpage
    simp only [Option.some.injEq, Prod.mk.injEq] at h
    exact .inl ⟨hpage, h.1.symm, h.2.symm⟩
  · rename_i hpage
    split at h
    · cases h
    · rename_i phys u hu
      refine .inr ⟨phys, u, hpage, hu, ?_⟩
      split at h
      · rename_i hab
        simp only [Option.some.injEq, Prod.mk.injEq] at h
        exact .inl ⟨hab, h.1.symm, h.2.symm⟩
      · rename_i hab
        simp only [Option.some.injEq, Prod.mk.injEq] at h
        exact .inr ⟨by simpa using hab, h.1.symm, h.2.symm⟩

/-- `Untouched`, but for the one cache. -/
structure Started (c : CacheOf) (s t : Machine cfg D) : Prop where
  mem : t.mem = s.mem
  ctrl : t.ctrl = s.ctrl
  domainAccessControl : t.domainAccessControl = s.domainAccessControl
  mode : t.mode = s.mode
  memmode : t.memmode = s.memmode
  pccache : t.pccache = s.pccache
  readMap : t.readMap = s.readMap
  writeMap : t.writeMap = s.writeMap
  memcacheMemmode : t.memcacheMemmode = s.memcacheMemmode
  translationTable : t.translationTable = s.translationTable
  tlbram : t.tlbram = s.tlbram
  memcache : ∀ c', c' ≠ c → t.memcache c' = s.memcache c'

lemma cachedTranslate_started (h : cachedTranslate io s c addr rw = some (r, t)) :
    Started c s t := by
  rcases cachedTranslate_cases h with ⟨-, -, rfl⟩ | ⟨phys, u, -, hu, hr⟩
  · exact ⟨rfl, rfl, rfl, rfl, rfl, rfl, rfl, rfl, rfl, rfl, rfl, fun _ _ => rfl⟩
  · have hk := translateaddress_untouched hu
    have hcache : ∀ c', c' ≠ c → u.memcache c' = s.memcache c' := by
      intro c' hc
      rw [hk.memcache]
      exact Function.update_of_ne hc _ _
    rcases hr with ⟨-, -, rfl⟩ | ⟨-, -, rfl⟩
    · exact ⟨hk.mem, hk.ctrl, hk.domainAccessControl, hk.mode, hk.memmode, hk.pccache, hk.readMap,
        hk.writeMap, hk.memcacheMemmode, hk.translationTable, hk.tlbram,
        fun c' hc => (Function.update_of_ne hc _ _).trans (hcache c' hc)⟩
    · exact ⟨hk.mem, hk.ctrl, hk.domainAccessControl, hk.mode, hk.memmode, hk.pccache, hk.readMap,
        hk.writeMap, hk.memcacheMemmode, hk.translationTable, hk.tlbram,
        fun c' hc => (Function.update_of_ne hc _ _).trans (hcache c' hc)⟩

lemma cachedTranslate_page (h : cachedTranslate io s c addr rw = some (some phys, t)) :
    (t.memcache c).page = some (page addr) := by
  rcases cachedTranslate_cases h with ⟨hpage, -, rfl⟩ | ⟨phys, u, -, hu, hr⟩
  · exact hpage
  · rcases hr with ⟨-, hr, -⟩ | ⟨-, -, rfl⟩
    · cases hr
    · simp [setMemcache]

lemma Coherent.start (h : Coherent H W p s) (hon : mmuOn s = true) (hW : walk io s = W)
    (hu : page addr = p → Uniform W p) (hmode : s.memcacheMemmode = some s.memmode)
    (ht : cachedTranslate io s c addr c.isWrite = some (r, t)) : Coherent H W p t := by
  rcases cachedTranslate_cases ht with ⟨-, -, rfl⟩ | ⟨phys, u, -, hu', hr⟩
  · exact h
  · have hk := cachedTranslate_started ht
    have hs : Held H W p (setMemcache s c ⟨some (page addr), (s.memcache c).phys⟩) :=
      h.toHeld.congr rfl rfl rfl rfl
    have hheld : Held H W p u := hs.translate hon hW hu hu'
    have hother : ∀ c' m, c' ≠ c → t.memcacheMemmode = some m → (t.memcache c').page = some p →
        Grants W p m c'.isWrite (t.memcache c').phys := by
      intro c' m hc hm hpage
      rw [hk.memcache c' hc] at hpage ⊢
      exact h.cached c' m (hk.memcacheMemmode ▸ hm) hpage
    rcases hr with ⟨-, -, rfl⟩ | ⟨hab, -, rfl⟩
    · refine ⟨hheld.congr rfl rfl rfl rfl, fun c' m hm hpage => ?_⟩
      by_cases hc : c' = c
      · subst hc
        simp [setMemcache] at hpage
      · exact hother c' m hc hm hpage
    · refine ⟨hheld.congr rfl rfl rfl rfl, fun c' m hm hpage => ?_⟩
      by_cases hc : c' = c
      · subst hc
        simp only [setMemcache, Function.update_self, Option.some.injEq] at hpage ⊢
        have hm' : m = s.memmode := by
          have := hk.memcacheMemmode ▸ hm
          rw [hmode] at this
          exact (Option.some.inj this).symm
        subst hm'
        exact hs.translated hW (hu hpage) hpage hu' hab
      · exact hother c' m hc hm hpage

lemma Coherent.started (h : Coherent H W p s) (hon : mmuOn s = true) (hW : walk io s = W)
    (hu : Uniform W p) (hp : page addr = p) (hmode : s.memcacheMemmode = some s.memmode)
    (ht : cachedTranslate io s c addr c.isWrite = some (some phys, t)) :
    Grants W p s.memmode c.isWrite (t.memcache c).phys := by
  have hcoh := h.start hon hW (fun _ => hu) hmode ht
  refine hcoh.cached c s.memmode ?_ ?_
  · rw [(cachedTranslate_started ht).memcacheMemmode, hmode]
  · rw [cachedTranslate_page ht, hp]

end Translation

section SlowPaths

variable {D : Type} {cfg : Config} {io : Devices D} {H : Prop} {W : WalkFn} {p : UInt32}
  {s t : Machine cfg D} {addr v : UInt32}

/-- The registers that a walk uses are the same. -/
structure SameRegs (s t : Machine cfg D) : Prop where
  ctrl : t.ctrl = s.ctrl
  domainAccessControl : t.domainAccessControl = s.domainAccessControl
  mode : t.mode = s.mode
  memmode : t.memmode = s.memmode
  pccache : t.pccache = s.pccache

lemma SameRegs.refl (s : Machine cfg D) : SameRegs s s := ⟨rfl, rfl, rfl, rfl, rfl⟩

lemma SameRegs.trans {u : Machine cfg D} (h : SameRegs s t) (h' : SameRegs t u) : SameRegs s u :=
  ⟨h'.ctrl.trans h.ctrl, h'.domainAccessControl.trans h.domainAccessControl, h'.mode.trans h.mode,
    h'.memmode.trans h.memmode, h'.pccache.trans h.pccache⟩

lemma memcacheCheckMode_mode (s : Machine cfg D) :
    (memcacheCheckMode s).memcacheMemmode = some (memcacheCheckMode s).memmode := by
  unfold memcacheCheckMode
  split
  · assumption
  · rfl

lemma memcacheCheckMode_same (s : Machine cfg D) : SameRegs s (memcacheCheckMode s) := by
  unfold memcacheCheckMode
  split <;> exact ⟨rfl, rfl, rfl, rfl, rfl⟩

lemma memcacheCheckMode_walk (s : Machine cfg D) : walk io (memcacheCheckMode s) = walk io s := by
  unfold memcacheCheckMode
  split <;> rfl

lemma memcacheCheckMode_mmuOn (s : Machine cfg D) : mmuOn (memcacheCheckMode s) = mmuOn s := by
  rw [mmuOn, mmuOn, (memcacheCheckMode_same s).ctrl]

lemma memcacheCheckMode_mem (s : Machine cfg D) : (memcacheCheckMode s).mem = s.mem := by
  unfold memcacheCheckMode
  split <;> rfl

lemma memcacheCheckMode_phys (s : Machine cfg D) (c : CacheOf) :
    ((memcacheCheckMode s).memcache c).phys = (s.memcache c).phys := by
  unfold memcacheCheckMode
  split <;> rfl

lemma Coherent.slow (h : Coherent H W p s) (hon : mmuOn s = true) (hW : walk io s = W)
    (hu : page addr = p → Uniform W p) {c : CacheOf} {r : Option UInt32}
    (ht : cachedTranslate io (memcacheCheckMode s) c addr c.isWrite = some (r, t)) :
    Coherent H W p t := by
  refine h.checkMode.start ?_ ?_ hu (memcacheCheckMode_mode s) ht
  · rw [memcacheCheckMode_mmuOn, hon]
  · rw [memcacheCheckMode_walk, hW]

lemma slow_same {c : CacheOf} {rw : IsWrite} {r : Option UInt32}
    (ht : cachedTranslate io (memcacheCheckMode s) c addr rw = some (r, t)) : SameRegs s t := by
  have hk := cachedTranslate_started ht
  exact (memcacheCheckMode_same s).trans
    ⟨hk.ctrl, hk.domainAccessControl, hk.mode, hk.memmode, hk.pccache⟩

lemma Coherent.enters (h : Coherent H W p s) (hon : mmuOn s = true) (hW : walk io s = W)
    (hu : page addr = p → Uniform W p) {c : CacheOf} {phys : UInt32}
    (ht : cachedTranslate io (memcacheCheckMode s) c addr c.isWrite = some (some phys, t))
    (hp : page addr = p) {m : Bool} {rw : IsWrite}
    (hperm : permits (tlbperm t p) m rw = true) : Grants W p m rw (t.memcache c).phys := by
  have hon' : mmuOn (memcacheCheckMode s) = true := by rw [memcacheCheckMode_mmuOn, hon]
  have hW' : walk io (memcacheCheckMode s) = W := by rw [memcacheCheckMode_walk, hW]
  have hg := h.checkMode.started hon' hW' (hu hp) hp (memcacheCheckMode_mode s) ht
  exact (h.slow hon hW hu ht).1.permitted_in (hu hp) hp hg hperm

lemma Coherent.vradd_off (h : Coherent H W p s) (hoff : mmuOn s = false) (a q : UInt32)
    (e : HostPage) : Coherent H W p (Mmu.vradd s a e q) := by
  refine h.vradd fun _ m hperm => ?_
  obtain ⟨_, he, -⟩ := h.permitted hperm
  rw [h.off hoff] at he
  cases he

lemma readmemfl_kept (h : Coherent H W p s) (hW : walk io s = W) (hu : page addr = p → Uniform W p)
    (hr : readmemfl io s addr = some (v, t)) : Coherent H W p t := by
  simp only [readmemfl] at hr
  split at hr
  · rename_i hon
    split at hr
    · cases hr
    · rename_i u hu'
      have hcoh := h.slow (c := .reads) hon hW hu hu'
      cases hr
      exact hcoh.forgetRead addr
    · rename_i phys u hu'
      have hcoh := h.slow (c := .reads) hon hW hu hu'
      split at hr
      · rename_i e hhost
        cases hr
        refine hcoh.vradd fun hp m hperm => ?_
        exact ⟨_, h.enters (c := .reads) hon hW hu hu' hp hperm, hhost⟩
      · cases hr
        exact hcoh.congr rfl rfl rfl rfl rfl rfl
  · rename_i hon
    have hoff : mmuOn s = false := by simpa using hon
    cases hr
    split
    · exact (h.vradd_off hoff addr addr _).congr rfl rfl rfl rfl rfl rfl
    · exact h.congr rfl rfl rfl rfl rfl rfl

lemma readmemfb_kept (h : Coherent H W p s) (hW : walk io s = W) (hu : page addr = p → Uniform W p)
    (hr : readmemfb io s addr = some (v, t)) : Coherent H W p t := by
  simp only [readmemfb] at hr
  split at hr
  · rename_i hon
    split at hr
    · cases hr
    · rename_i u hu'
      cases hr
      exact h.slow (c := .reads) hon hW hu hu'
    · rename_i phys u hu'
      have hcoh := h.slow (c := .reads) hon hW hu hu'
      split at hr
      · rename_i e hhost
        cases hr
        refine hcoh.vradd fun hp m hperm => ?_
        exact ⟨_, h.enters (c := .reads) hon hW hu hu' hp hperm, hhost⟩
      · cases hr
        exact hcoh.congr rfl rfl rfl rfl rfl rfl
  · cases hr
    exact h.congr rfl rfl rfl rfl rfl rfl

/-- The state a byte write goes wrong from: it misses the fast map, its page is in EASI space, and
the last word write was to another page, of the framestore. -/
def Misfiles (io : Devices D) (s : Machine cfg D) (m : Bool) (addr : UInt32) : Prop :=
  mmuOn s = true ∧ (s.writeMap m).entry (page addr) = none ∧
    ∃ phys perm, walk io s m addr true = .granted phys perm ∧ chunk cfg (frame phys) = .easi ∧
      inFramestore cfg (s.memcache .words).phys = true ∧ (s.memcache .words).phys ≠ frame phys

lemma writeHost_own {fr w q : UInt32} {e : HostPage} (h : writeHost cfg fr w = some (e, q))
    (hw : chunk cfg fr = .easi → inFramestore cfg w = true → w = fr) :
    ∃ q', writeHost cfg fr fr = some (e, q') := by
  by_cases hc : chunk cfg fr = .easi
  · simp only [writeHost, hc] at h
    split at h
    · rename_i hin
      have hwf : w = fr := hw hc hin
      subst hwf
      simp only [Option.some.injEq, Prod.mk.injEq] at h
      exact ⟨w, by simp [writeHost, hc, hin, h.1]⟩
    · cases h
  · refine ⟨q, ?_⟩
    rw [← h]
    unfold writeHost
    split <;> first | rfl | exact absurd ‹_› hc

lemma enterAndWrite_kept (h : Coherent H W p s) {c : CacheOf} (write : Memory → D → Memory × D)
    (henter : page addr = p → ∀ m, permits (tlbperm s p) m true = true →
      Grants W p m true (s.memcache c).phys)
    (hown : H → page addr = p → chunk cfg (s.memcache c).phys = .easi →
      inFramestore cfg (s.memcache .words).phys = true →
      (s.memcache .words).phys = (s.memcache c).phys) :
    Coherent H W p (enterAndWrite s c addr write) := by
  unfold enterAndWrite
  split
  · rename_i e q hhost
    refine (h.vwadd fun hp m hperm => ?_).congr rfl rfl rfl rfl rfl rfl
    exact ⟨_, henter hp m hperm, fun hH => writeHost_own hhost (hown hH hp)⟩
  · exact h.congr rfl rfl rfl rfl rfl rfl

lemma writememfl_kept (h : Coherent H W p s) (hW : walk io s = W) (hu : page addr = p → Uniform W p)
    {val : UInt32} (hr : writememfl io s addr val = some t) : Coherent H W p t := by
  simp only [writememfl] at hr
  split at hr
  · rename_i hon
    split at hr
    · cases hr
    · rename_i u hu'
      cases hr
      exact h.slow (c := .words) hon hW hu hu'
    · rename_i phys u hu'
      have hcoh := h.slow (c := .words) hon hW hu hu'
      cases hr
      exact enterAndWrite_kept hcoh (c := .words)
        (fun m d => memPhysWrite32 cfg io m d phys val)
        (fun hp m hperm => h.enters (c := .words) hon hW hu hu' hp hperm) (fun _ _ _ _ => rfl)
  · cases hr
    exact h.congr rfl rfl rfl rfl rfl rfl

lemma writememfb_kept (h : Coherent H W p s) (hW : walk io s = W) (hu : page addr = p → Uniform W p)
    {val : UInt8} (hmiss : (s.writeMap s.memmode).entry (page addr) = none)
    (hfile : H → page addr = p → ¬ Misfiles io s s.memmode addr)
    (hr : writememfb io s addr val = some t) : Coherent H W p t := by
  simp only [writememfb] at hr
  split at hr
  · rename_i hon
    split at hr
    · cases hr
    · rename_i u hu'
      cases hr
      exact h.slow (c := .bytes) hon hW hu hu'
    · rename_i phys u hu'
      have hcoh := h.slow (c := .bytes) hon hW hu hu'
      cases hr
      have hwords : (u.memcache .words).phys = (s.memcache .words).phys := by
        rw [(cachedTranslate_started hu').memcache .words (by decide), memcacheCheckMode_phys]
      exact enterAndWrite_kept hcoh (c := .bytes)
        (fun m d => memPhysWrite8 cfg io m d phys val)
        (fun hp m hperm => h.enters (c := .bytes) hon hW hu hu' hp hperm) (by
          intro hH hp heasi hin
          -- the page of the cache is the page the walk grants
          have hg := h.checkMode.started (c := .bytes)
            (by rw [memcacheCheckMode_mmuOn, hon]) (by rw [memcacheCheckMode_walk, hW]) (hu hp) hp
            (memcacheCheckMode_mode s) hu'
          obtain ⟨perm, hgrant⟩ := hg.granted hp
          rw [(memcacheCheckMode_same s).memmode, ← hW] at hgrant
          have hframe : frame ((u.memcache .bytes).phys ||| low addr) = (u.memcache .bytes).phys := by
            rw [← hg.1, frame_frame_or]
          by_contra hne
          refine hfile hH hp ⟨hon, hmiss, _, perm, hgrant, ?_, ?_, ?_⟩
          · rw [hframe, heasi]
          · rw [← hwords, hin]
          · rw [hframe, ← hwords]
            exact hne)
  · cases hr
    exact h.congr rfl rfl rfl rfl rfl rfl

/-! ## What the slow paths leave alone -/

lemma readmemfl_same (hr : readmemfl io s addr = some (v, t)) : SameRegs s t := by
  simp only [readmemfl] at hr
  split at hr
  · split at hr
    · cases hr
    · rename_i u hu
      cases hr
      exact (slow_same hu).trans ⟨rfl, rfl, rfl, rfl, rfl⟩
    · rename_i phys u hu
      split at hr <;> cases hr <;> exact (slow_same hu).trans ⟨rfl, rfl, rfl, rfl, rfl⟩
  · cases hr
    split <;> exact ⟨rfl, rfl, rfl, rfl, rfl⟩

lemma readmemfb_same (hr : readmemfb io s addr = some (v, t)) : SameRegs s t := by
  simp only [readmemfb] at hr
  split at hr
  · split at hr
    · cases hr
    · rename_i u hu
      cases hr
      exact slow_same hu
    · rename_i phys u hu
      split at hr <;> cases hr <;> exact (slow_same hu).trans ⟨rfl, rfl, rfl, rfl, rfl⟩
  · cases hr
    exact ⟨rfl, rfl, rfl, rfl, rfl⟩

lemma enterAndWrite_same (s : Machine cfg D) (c : CacheOf) (addr : UInt32)
    (write : Memory → D → Memory × D) : SameRegs s (enterAndWrite s c addr write) := by
  unfold enterAndWrite
  split <;> exact ⟨rfl, rfl, rfl, rfl, rfl⟩

lemma writememfl_same {val : UInt32} (hr : writememfl io s addr val = some t) : SameRegs s t := by
  simp only [writememfl] at hr
  split at hr
  · split at hr
    · cases hr
    · rename_i u hu
      cases hr
      exact slow_same hu
    · rename_i phys u hu
      cases hr
      exact (slow_same hu).trans (enterAndWrite_same _ _ _ _)
  · cases hr
    exact ⟨rfl, rfl, rfl, rfl, rfl⟩

lemma writememfb_same {val : UInt8} (hr : writememfb io s addr val = some t) : SameRegs s t := by
  simp only [writememfb] at hr
  split at hr
  · split at hr
    · cases hr
    · rename_i u hu
      cases hr
      exact slow_same hu
    · rename_i phys u hu
      cases hr
      exact (slow_same hu).trans (enterAndWrite_same _ _ _ _)
  · cases hr
    exact ⟨rfl, rfl, rfl, rfl, rfl⟩

end SlowPaths

section Steps

variable {D : Type} {cfg : Config} {io : Devices D} {H : Prop} {W : WalkFn} {p : UInt32}
  {s t : Machine cfg D} {v : UInt32}

/-- The access is a byte write that goes wrong at privilege `m`. -/
def Access.Misfiled (io : Devices D) (s : Machine cfg D) (m : Bool) : Access → Prop
  | .write8 addr _ => Misfiles io s m addr
  | _ => False

/-- A byte write that enters another page than its own. -/
def Op.Misfiled (io : Devices D) (s : Machine cfg D) : Op D → Prop
  | .access a => a.Misfiled io s s.memmode
  | .userAccess a => a.Misfiled io s false
  | _ => False

lemma access_kept (h : Coherent H W p s) (hW : walk io s = W) {a : Access}
    (hu : page a.addr = p → Uniform W p) (hfile : H → ¬ a.Misfiled io s s.memmode)
    (hr : access io s a = some (v, t)) : Coherent H W p t := by
  cases a with
  | read32 addr =>
    simp only [access, memRead32] at hr
    split at hr
    · cases hr
      exact h
    · exact readmemfl_kept h hW hu hr
  | read8 addr =>
    simp only [access, memRead8] at hr
    split at hr
    · cases hr
      exact h
    · exact readmemfb_kept h hW hu hr
  | write32 addr val =>
    obtain ⟨u, hu', hut⟩ := Option.map_eq_some_iff.mp hr
    cases hut
    simp only [memWrite32] at hu'
    split at hu'
    · cases hu'
      exact h.congr rfl rfl rfl rfl rfl rfl
    · exact writememfl_kept h hW hu hu'
  | write8 addr val =>
    obtain ⟨u, hu', hut⟩ := Option.map_eq_some_iff.mp hr
    cases hut
    simp only [memWrite8] at hu'
    split at hu'
    · cases hu'
      exact h.congr rfl rfl rfl rfl rfl rfl
    · rename_i hmiss
      exact writememfb_kept h hW hu hmiss (fun hH _ => hfile hH) hu'

lemma access_same {a : Access} (hr : access io s a = some (v, t)) : SameRegs s t := by
  cases a with
  | read32 addr =>
    simp only [access, memRead32] at hr
    split at hr
    · cases hr
      exact .refl s
    · exact readmemfl_same hr
  | read8 addr =>
    simp only [access, memRead8] at hr
    split at hr
    · cases hr
      exact .refl s
    · exact readmemfb_same hr
  | write32 addr val =>
    obtain ⟨u, hu, hut⟩ := Option.map_eq_some_iff.mp hr
    cases hut
    simp only [memWrite32] at hu
    split at hu
    · cases hu
      exact ⟨rfl, rfl, rfl, rfl, rfl⟩
    · exact writememfl_same hu
  | write8 addr val =>
    obtain ⟨u, hu, hut⟩ := Option.map_eq_some_iff.mp hr
    cases hut
    simp only [memWrite8] at hu
    split at hu
    · cases hu
      exact ⟨rfl, rfl, rfl, rfl, rfl⟩
    · exact writememfb_same hu

lemma userAccess_same {a : Access} (hr : userAccess io s a = some (v, t)) : SameRegs s t := by
  obtain ⟨⟨w, u⟩, hu, hut⟩ := Option.map_eq_some_iff.mp hr
  cases hut
  have hsame := access_same hu
  exact ⟨hsame.ctrl, hsame.domainAccessControl, hsame.mode, rfl, hsame.pccache⟩

lemma userAccess_kept (h : Coherent H W p s) (hW : walk io s = W) {a : Access}
    (hu : page a.addr = p → Uniform W p) (hfile : H → ¬ a.Misfiled io s false)
    (hr : userAccess io s a = some (v, t)) : Coherent H W p t := by
  obtain ⟨⟨w, u⟩, hu', hut⟩ := Option.map_eq_some_iff.mp hr
  cases hut
  have hs : Coherent H W p (memSetPrivilege s false) := h.congr rfl rfl rfl rfl rfl rfl
  exact (access_kept hs hW hu hfile hu').congr rfl rfl rfl rfl rfl rfl

def eraseWrites (s : Machine cfg D) (p : UInt32) : Machine cfg D :=
  { s with writeMap := fun m => (s.writeMap m).erase p }

lemma Coherent.eraseWrites (h : Coherent H W p s) (q : UInt32) : Coherent H W p (eraseWrites s q) where
  tlb := h.tlb
  reads := h.reads
  writes := fun m e he => h.writes m e (RingMap.entry_of_erase he)
  cached := h.cached
  off := h.off

/-- **What a fetch does**: with the MMU on it translates the page's first address, and aborts if that
is refused. -/
lemma getpccache_cases {addr : UInt32} {r : Option HostPage}
    (hr : getpccache io s addr = some (r, t)) :
    (mmuOn s = false ∧ t = eraseWrites s (page (frame addr))) ∨
    (mmuOn s = true ∧ ∃ phys u, translateaddress io s (frame addr) false true = some (phys, u) ∧
      ((u.abort = true ∧ r = none ∧ t = { u with abort := false }) ∨
        (u.abort = false ∧ t = eraseWrites u (page (frame addr))))) := by
  simp only [getpccache] at hr
  obtain ⟨⟨found, u⟩, hfound, hrt⟩ := Option.map_eq_some_iff.mp hr
  have hsome : ∀ phys, found = some phys → t = eraseWrites u (page (frame addr)) := by
    rintro phys rfl
    simp only at hrt
    split at hrt <;> exact (congrArg Prod.snd hrt).symm
  split at hfound
  · rename_i hon
    obtain ⟨⟨phys, w⟩, ht, hw⟩ := Option.map_eq_some_iff.mp hfound
    refine .inr ⟨hon, phys, w, ht, ?_⟩
    split at hw
    · rename_i hab
      cases hw
      cases hrt
      exact .inl ⟨hab, rfl, rfl⟩
    · rename_i hab
      cases hw
      exact .inr ⟨by simpa using hab, hsome _ rfl⟩
  · rename_i hoff
    cases hfound
    exact .inl ⟨by simpa using hoff, hsome _ rfl⟩

lemma getpccache_same {addr : UInt32} {r : Option HostPage}
    (hr : getpccache io s addr = some (r, t)) : SameRegs s t := by
  rcases getpccache_cases hr with ⟨-, rfl⟩ | ⟨-, phys, u, ht, ⟨-, -, rfl⟩ | ⟨-, rfl⟩⟩
  · exact ⟨rfl, rfl, rfl, rfl, rfl⟩
  · have hk := translateaddress_untouched ht
    exact ⟨hk.ctrl, hk.domainAccessControl, hk.mode, hk.memmode, hk.pccache⟩
  · have hk := translateaddress_untouched ht
    exact ⟨hk.ctrl, hk.domainAccessControl, hk.mode, hk.memmode, hk.pccache⟩

lemma getpccache_kept (h : Coherent H W p s) (hW : walk io s = W) {addr : UInt32}
    (hu : page addr = p → Uniform W p) {r : Option HostPage}
    (hr : getpccache io s addr = some (r, t)) : Coherent H W p t := by
  have hpage : page (frame addr) = page addr := by rw [page_eq_iff, frame_frame]
  have htranslated : ∀ {phys u}, mmuOn s = true →
      translateaddress io s (frame addr) false true = some (phys, u) → Coherent H W p u := by
    intro phys u hon ht
    have hk := translateaddress_untouched ht
    refine ⟨h.toHeld.translate hon hW (fun hp => hu (hpage ▸ hp)) ht, ?_⟩
    rw [hk.memcacheMemmode, hk.memcache]
    exact h.cached
  rcases getpccache_cases hr with ⟨-, rfl⟩ | ⟨hon, phys, u, ht, ⟨-, -, rfl⟩ | ⟨-, rfl⟩⟩
  · exact h.eraseWrites _
  · exact (htranslated hon ht).congr rfl rfl rfl rfl rfl rfl
  · exact (htranslated hon ht).eraseWrites _

/-! ## Flushes -/

/-- A CP15 write that empties the caches. -/
def Flushes (s : Machine cfg D) : Op D → Prop
  | .cp15Write opcode val =>
    let crn := (opcode >>> 16) &&& 0xf
    crn = 1 ∧ ctrlChanges s val = true ∨ crn = 2 ∨ crn = 3 ∧ val ≠ s.domainAccessControl ∨
      (crn = 5 ∨ crn = 6) ∧ armv4 cfg = false ∨ crn = 8 ∧ armv4 cfg = true
  | _ => False

lemma coherent_flushed {u : Machine cfg D} (htlb : t.tlb = (cp15TlbFlushAll u).tlb)
    (hreads : t.readMap = (cp15TlbFlushAll u).readMap)
    (hwrites : t.writeMap = (cp15TlbFlushAll u).writeMap)
    (hmode : t.memcacheMemmode = none) : Coherent H W p t where
  tlb := by rw [htlb]; exact (coherent_flush (H := H) u).tlb
  reads := by rw [hreads]; exact (coherent_flush (H := H) u).reads
  writes := by rw [hwrites]; exact (coherent_flush u).writes
  off := fun _ => by rw [htlb]; exact RingMap.flush_entry _ _
  cached := by simp [hmode]

lemma writeControl_cases (s : Machine cfg D) (val : UInt32) :
    (writeControl s val = { (if ctrlChanges s val then cp15TlbFlushAll s else s) with ctrl := val }) ∨
    (∃ m, writeControl s val = updatemode
      { (if ctrlChanges s val then cp15TlbFlushAll s else s) with ctrl := val } m) := by
  simp only [writeControl]
  generalize (if ctrlChanges s val then cp15TlbFlushAll s else s) = u
  split
  · exact .inr ⟨_, rfl⟩
  · exact .inl rfl

/-- **A flush leaves the caches coherent**, with any tables. -/
theorem coherent_of_flushes {op : Op D} (hf : Flushes s op) (hs : step io s op = some (v, t)) :
    Coherent H W p t := by
  cases op with
  | cp15Write opcode val =>
    cases hs
    rcases hf with ⟨hc, hch⟩ | hc | ⟨hc, hne⟩ | ⟨hc | hc, ha⟩ | ⟨hc, ha⟩
    · simp only [cp15Write, hc, if_true]
      rcases writeControl_cases s val with heq | ⟨m, heq⟩
      · rw [heq, if_pos hch]
        exact coherent_flushed (u := s) rfl rfl rfl rfl
      · rw [heq, if_pos hch]
        exact coherent_flushed (u := s) rfl rfl rfl rfl
    · simp only [cp15Write, hc]
      exact coherent_flush _
    · simp only [cp15Write, hc, if_true]
      rw [if_neg (by decide), if_neg (by decide), if_pos hne]
      exact coherent_flush _
    · simp only [cp15Write, hc, ha]
      exact coherent_flush _
    · simp only [cp15Write, hc, ha]
      exact coherent_flush _
    · simp only [cp15Write, hc, ha]
      exact coherent_flush _
  | _ => exact hf.elim

lemma writeControl_quiet {val : UInt32} (hch : ctrlChanges s val = false) :
    (∀ {W : WalkFn}, Coherent H W p s → Coherent H W p (writeControl s val)) ∧
      (writeControl s val).ctrl &&& 0x301 = s.ctrl &&& 0x301 ∧
      (writeControl s val).domainAccessControl = s.domainAccessControl := by
  have hbits : val &&& 0x301 = s.ctrl &&& 0x301 :=
    and_eq_of_xor_and (by simpa [ctrlChanges] using hch)
  have hmmu : val &&& ctrlMmu = s.ctrl &&& ctrlMmu := and_eq_of_and_eq hbits (by decide)
  have hcoh : ∀ {W : WalkFn}, Coherent H W p s → Coherent H W p { s with ctrl := val } := by
    intro W h
    refine ⟨⟨h.tlb, h.reads, h.writes, fun hoff => h.off ?_⟩, h.cached⟩
    simpa [mmuOn, hmmu] using hoff
  rcases writeControl_cases s val with heq | ⟨m, heq⟩
  · rw [heq, hch]
    exact ⟨hcoh, hbits, rfl⟩
  · rw [heq, hch]
    exact ⟨fun h => (hcoh h).congr rfl rfl rfl rfl rfl rfl, hbits, rfl⟩

lemma cp15Write_quiet {opcode val : UInt32} (hf : ¬ Flushes s (.cp15Write opcode val)) :
    (∀ {W : WalkFn}, Coherent H W p s → Coherent H W p (cp15Write s opcode val)) ∧
      (cp15Write s opcode val).ctrl &&& 0x301 = s.ctrl &&& 0x301 ∧
      (cp15Write s opcode val).domainAccessControl = s.domainAccessControl := by
  simp only [Flushes, not_or, not_and, Bool.not_eq_true] at hf
  obtain ⟨hctl, h2, h3, h56, h8⟩ := hf
  have hregs : ∀ u : Machine cfg D, u.tlb = s.tlb → u.readMap = s.readMap →
      u.writeMap = s.writeMap → u.ctrl = s.ctrl → u.memcache = s.memcache →
      u.memcacheMemmode = s.memcacheMemmode → u.domainAccessControl = s.domainAccessControl →
      (∀ {W : WalkFn}, Coherent H W p s → Coherent H W p u) ∧ u.ctrl &&& 0x301 = s.ctrl &&& 0x301 ∧
        u.domainAccessControl = s.domainAccessControl := by
    intro u h1 h2 h3 h4 h5 h6 h7
    exact ⟨fun h => h.congr h1 h2 h3 h4 h5 h6, by rw [h4], h7⟩
  simp only [cp15Write]
  split_ifs with c1 c3 hdac c5 ha c6 ha c7 c8
  · exact writeControl_quiet (hctl c1)
  · exact absurd hdac (h3 c3)
  · exact hregs s rfl rfl rfl rfl rfl rfl rfl
  · exact hregs _ rfl rfl rfl rfl rfl rfl rfl
  · exact absurd (h56 (.inl c5)) (by simpa using ha)
  · exact hregs _ rfl rfl rfl rfl rfl rfl rfl
  · exact absurd (h56 (.inr c6)) (by simpa using ha)
  · exact hregs _ rfl rfl rfl rfl rfl rfl rfl
  · exact absurd (h8 c8.1) (by simp [c8.2])
  · exact hregs s rfl rfl rfl rfl rfl rfl rfl

lemma step_quiet {op : Op D} (hf : ¬ Flushes s op) (hs : step io s op = some (v, t)) :
    t.ctrl &&& 0x301 = s.ctrl &&& 0x301 ∧ t.domainAccessControl = s.domainAccessControl := by
  have hsame : SameRegs s t →
      t.ctrl &&& 0x301 = s.ctrl &&& 0x301 ∧ t.domainAccessControl = s.domainAccessControl := by
    intro h
    rw [h.ctrl]
    exact ⟨rfl, h.domainAccessControl⟩
  cases op with
  | access a => exact hsame (access_same hs)
  | userAccess a => exact hsame (userAccess_same hs)
  | cp15Write opcode val =>
    cases hs
    exact (cp15Write_quiet (H := True) (p := 0) hf).2
  | fetch addr =>
    obtain ⟨⟨r, u⟩, hu, hut⟩ := Option.map_eq_some_iff.mp hs
    cases hut
    exact hsame (getpccache_same hu)
  | updatemode m =>
    cases hs
    exact ⟨rfl, rfl⟩
  | invalidatePhysical addr =>
    cases hs
    exact ⟨rfl, rfl⟩
  | takeAbort =>
    cases hs
    exact ⟨rfl, rfl⟩
  | others mem dev =>
    cases hs
    exact ⟨rfl, rfl⟩

theorem Coherent.unflushed (h : Coherent H (walk io s) p s) (hu : Uniform (walk io s) p)
    {op : Op D} (hfile : H → ¬ op.Misfiled io s) (hf : ¬ Flushes s op)
    (hs : step io s op = some (v, t)) : Coherent H (walk io s) p t := by
  cases op with
  | access a => exact access_kept h rfl (fun _ => hu) hfile hs
  | userAccess a => exact userAccess_kept h rfl (fun _ => hu) hfile hs
  | updatemode m =>
    cases hs
    exact h.congr rfl rfl rfl rfl rfl rfl
  | cp15Write opcode val =>
    cases hs
    exact (cp15Write_quiet hf).1 h
  | invalidatePhysical addr =>
    cases hs
    exact h.invalidatePhysical addr
  | fetch addr =>
    obtain ⟨⟨r, u⟩, hu', hut⟩ := Option.map_eq_some_iff.mp hs
    cases hut
    exact getpccache_kept h rfl (fun _ => hu) hu'
  | takeAbort =>
    cases hs
    exact h.congr rfl rfl rfl rfl rfl rfl
  | others mem dev =>
    cases hs
    exact h.congr rfl rfl rfl rfl rfl rfl

/-- **One step keeps the caches coherent**, if the tables are the same after it and it is not a byte
write that enters another page. -/
theorem Coherent.step (h : Coherent H (walk io s) p s) (hu : Uniform (walk io s) p)
    {op : Op D} (hfile : H → ¬ op.Misfiled io s) (hs : step io s op = some (v, t))
    (htab : tables io t = tables io s) : Coherent H (walk io t) p t := by
  by_cases hf : Flushes s op
  · exact coherent_of_flushes hf hs
  · obtain ⟨hctrl, hdac⟩ := step_quiet hf hs
    rw [walk_congr htab (and_eq_of_and_eq hctrl (by decide)) hdac]
    exact h.unflushed hu hfile hf hs

end Steps

end RpcEmu.Mmu
