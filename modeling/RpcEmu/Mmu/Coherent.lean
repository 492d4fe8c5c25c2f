import RpcEmu.Mmu.Access

/-!
# What the caches of a page may hold

`Coherent H W p s` is the invariant of the three caches, for one page: whatever the TLB, the fast
maps and the single-entry caches hold for page `p`, the walk `W` grants, to the address they give.

* It is stated for one page because the caches are per page: an access to another page can only
  evict.
* `W` is a parameter, not the walk of the state: a step walks the tables as they are before it, and
  is read with the tables as they are after it.
* `H` says whether the host memory of the write maps is part of the invariant.  Who may write a page
  does not depend on it.
* `Uniform W p` is what a page needs for a cache of whole pages to be right: one answer for all its
  addresses.
-/

namespace RpcEmu.Mmu

open Bytes Pages

abbrev WalkFn := Bool → UInt32 → IsWrite → Walked

/-- **One answer per page**: the addresses of the page are granted the same accesses, in one physical
page, and the mask of a grant holds only grants. -/
structure Uniform (W : WalkFn) (p : UInt32) : Prop where
  page_granted : ∀ {m a b rw phys perm}, page a = p → page b = p → W m a rw = .granted phys perm →
    W m b rw = .granted (frame phys ||| low b) perm
  perm_granted : ∀ {m m' a rw rw' phys perm}, page a = p → W m a rw = .granted phys perm →
    permits perm m' rw' = true → W m' a rw' = .granted phys perm
  one_phys : ∀ {m m' a rw rw' phys phys' perm perm'}, page a = p → W m a rw = .granted phys perm →
    W m' a rw' = .granted phys' perm' → phys = phys'

/-- The walk grants an access to every address of a page, in the physical page `fr`. -/
def Grants (W : WalkFn) (p : UInt32) (m : Bool) (rw : IsWrite) (fr : UInt32) : Prop :=
  frame fr = fr ∧ ∀ a, page a = p → ∃ perm, W m a rw = .granted (fr ||| low a) perm

def CacheOf.isWrite : CacheOf → IsWrite
  | .reads => false
  | .words | .bytes => true

/-- All that is held for a page is granted by its walk. -/
structure Held {D : Type} {cfg : Config} (H : Prop) (W : WalkFn) (p : UInt32) (s : Machine cfg D) : Prop where
  tlb : ∀ e, s.tlb.entry p = some e → ∀ m rw, permits e.perm m rw = true → Grants W p m rw e.paddr
  reads : ∀ m h, (s.readMap m).entry p = some h →
    ∃ fr, Grants W p m false fr ∧ readHost cfg fr = some h
  writes : ∀ m h, (s.writeMap m).entry p = some h →
    ∃ fr, Grants W p m true fr ∧ (H → ∃ q, writeHost cfg fr fr = some (h, q))
  off : mmuOn s = false → s.tlb.entry p = none

/-- **What the caches hold for a page, the walk grants.** -/
structure Coherent {D : Type} {cfg : Config} (H : Prop) (W : WalkFn) (p : UInt32) (s : Machine cfg D) : Prop
    extends Held H W p s where
  cached : ∀ c m, s.memcacheMemmode = some m → (s.memcache c).page = some p →
    Grants W p m c.isWrite (s.memcache c).phys

section Grants

variable {W : WalkFn} {p : UInt32}

lemma Grants.granted {m : Bool} {rw : IsWrite} {fr a : UInt32} (h : Grants W p m rw fr)
    (ha : page a = p) : ∃ perm, W m a rw = .granted (fr ||| low a) perm := h.2 a ha

lemma Uniform.grants (hu : Uniform W p) {m : Bool} {rw : IsWrite} {a phys : UInt32} {perm : UInt8}
    (ha : page a = p) (h : W m a rw = .granted phys perm) : Grants W p m rw (frame phys) :=
  ⟨frame_frame phys, fun _ hb => ⟨perm, hu.page_granted ha hb h⟩⟩

lemma Uniform.one_frame (hu : Uniform W p) {m m' : Bool} {rw rw' : IsWrite} {fr fr' a : UInt32}
    (ha : page a = p) (h : Grants W p m rw fr) (h' : Grants W p m' rw' fr') : fr = fr' := by
  obtain ⟨perm, hg⟩ := h.granted ha
  obtain ⟨perm', hg'⟩ := h'.granted ha
  have heq := hu.one_phys ha hg hg'
  have hframe := congrArg frame heq
  rwa [← h.1, ← h'.1, frame_frame_or, frame_frame_or, h.1, h'.1] at hframe

end Grants

section Caches

variable {D : Type} {cfg : Config} {H : Prop} {W : WalkFn} {p : UInt32} {s t : Machine cfg D}

lemma Held.congr (h : Held H W p s) (htlb : t.tlb = s.tlb) (hreads : t.readMap = s.readMap)
    (hwrites : t.writeMap = s.writeMap) (hctrl : t.ctrl = s.ctrl) : Held H W p t where
  tlb := by rw [htlb]; exact h.tlb
  reads := by rw [hreads]; exact h.reads
  writes := by rw [hwrites]; exact h.writes
  off := by rw [htlb, mmuOn, hctrl]; exact h.off

lemma Coherent.congr (h : Coherent H W p s) (htlb : t.tlb = s.tlb) (hreads : t.readMap = s.readMap)
    (hwrites : t.writeMap = s.writeMap) (hctrl : t.ctrl = s.ctrl) (hcache : t.memcache = s.memcache)
    (hmode : t.memcacheMemmode = s.memcacheMemmode) : Coherent H W p t where
  toHeld := h.toHeld.congr htlb hreads hwrites hctrl
  cached := by rw [hcache, hmode]; exact h.cached

lemma Coherent.congr_walk {W' : WalkFn} (h : Coherent H W p s)
    (hW : ∀ m a rw, page a = p → W' m a rw = W m a rw) : Coherent H W' p s := by
  have hg : ∀ {m rw fr}, Grants W p m rw fr → Grants W' p m rw fr := by
    intro m rw fr hg
    refine ⟨hg.1, fun a ha => ?_⟩
    rw [hW m a rw ha]
    exact hg.2 a ha
  refine ⟨⟨fun e he m rw hp => hg (h.tlb e he m rw hp), fun m e he => ?_, fun m e he => ?_, h.off⟩,
    fun c m hm hp => hg (h.cached c m hm hp)⟩
  · obtain ⟨fr, hfr, hhost⟩ := h.reads m e he
    exact ⟨fr, hg hfr, hhost⟩
  · obtain ⟨fr, hfr, hhost⟩ := h.writes m e he
    exact ⟨fr, hg hfr, hhost⟩

/-! ## What fills a cache -/

lemma Held.tlbAdd (h : Held H W p s) (hon : mmuOn s = true) {addr phys : UInt32} {perm : UInt8}
    (hnew : page addr = p → ∀ m rw, permits perm m rw = true → Grants W p m rw (frame phys)) :
    Held H W p (cp15TlbAddEntry s addr phys perm) where
  tlb := by
    intro e he
    rcases RingMap.install_entry he with ⟨hp, rfl⟩ | ⟨-, hold⟩
    · exact hnew hp.symm
    · exact h.tlb e hold
  reads := h.reads
  writes := h.writes
  off := by
    intro hoff
    have hon' : mmuOn (cp15TlbAddEntry s addr phys perm) = true := hon
    rw [hon'] at hoff
    cases hoff

lemma Coherent.vradd (h : Coherent H W p s) {a q : UInt32} {v : HostPage}
    (hnew : page a = p → ∀ m, permits (tlbperm s p) m false = true →
      ∃ fr, Grants W p m false fr ∧ readHost cfg fr = some v) :
    Coherent H W p (vradd s a v q) where
  tlb := h.tlb
  reads := by
    intro m e he
    simp only [Mmu.vradd] at he
    split at he
    · rename_i hperm
      rcases RingMap.install_entry he with ⟨hp, rfl⟩ | ⟨-, hold⟩
      · exact hnew hp.symm m (hp ▸ hperm)
      · exact h.reads m e hold
    · exact h.reads m e he
  writes := h.writes
  cached := h.cached
  off := h.off

lemma Coherent.vwadd (h : Coherent H W p s) {a q : UInt32} {v : HostPage}
    (hnew : page a = p → ∀ m, permits (tlbperm s p) m true = true →
      ∃ fr, Grants W p m true fr ∧ (H → ∃ q', writeHost cfg fr fr = some (v, q'))) :
    Coherent H W p (vwadd s a v q) where
  tlb := h.tlb
  reads := h.reads
  writes := by
    intro m e he
    simp only [Mmu.vwadd] at he
    split at he
    · rename_i hperm
      rcases RingMap.install_entry he with ⟨hp, rfl⟩ | ⟨-, hold⟩
      · exact hnew hp.symm m (hp ▸ hperm)
      · exact h.writes m e hold
    · exact h.writes m e he
  cached := h.cached
  off := h.off

lemma Held.permitted (h : Held H W p s) {m : Bool} {rw : IsWrite}
    (hp : permits (tlbperm s p) m rw = true) :
    ∃ e, s.tlb.entry p = some e ∧ Grants W p m rw e.paddr := by
  cases he : s.tlb.entry p with
  | none =>
    have hnone : permits 0 m rw = true := by simpa [tlbperm, he] using hp
    cases m <;> cases rw <;> exact absurd hnone (by decide)
  | some e =>
    have hperm : permits e.perm m rw = true := by simpa [tlbperm, he] using hp
    exact ⟨e, rfl, h.tlb e he m rw hperm⟩

lemma Held.permitted_in (h : Held H W p s) (hu : Uniform W p) {m m' : Bool}
    {rw rw' : IsWrite} {fr a : UInt32} (ha : page a = p) (hg : Grants W p m' rw' fr)
    (hp : permits (tlbperm s p) m rw = true) : Grants W p m rw fr := by
  obtain ⟨e, -, he⟩ := h.permitted hp
  rwa [hu.one_frame ha hg he]

/-! ## What empties one -/

lemma Coherent.checkMode (h : Coherent H W p s) : Coherent H W p (memcacheCheckMode s) := by
  unfold memcacheCheckMode
  split
  · exact h
  · exact ⟨h.toHeld.congr rfl rfl rfl rfl, nofun⟩

lemma Coherent.forgetRead (h : Coherent H W p s) (addr : UInt32) :
    Coherent H W p (forgetRead s addr) where
  tlb := h.tlb
  reads := by
    intro m e he
    by_cases hm : m = s.memmode
    · subst hm
      simp only [Mmu.forgetRead, Function.update_self] at he
      exact h.reads _ e (RingMap.entry_of_erase he)
    · simp only [Mmu.forgetRead, Function.update_of_ne hm] at he
      exact h.reads m e he
  writes := h.writes
  cached := h.cached
  off := h.off

lemma coherent_flush (s : Machine cfg D) : Coherent H W p (cp15TlbFlushAll s) where
  tlb := by
    intro e he
    rw [cp15TlbFlushAll, RingMap.flush_entry] at he
    cases he
  reads := by
    intro m h hh
    rw [cp15TlbFlushAll, RingMap.flush_entry] at hh
    cases hh
  writes := by
    intro m h hh
    rw [cp15TlbFlushAll, RingMap.flush_entry] at hh
    cases hh
  cached := nofun
  off := fun _ => RingMap.flush_entry _ _

lemma readMap_invalidatePhysical (s : Machine cfg D) (addr : UInt32) (m : Bool) :
    (cp15TlbInvalidatePhysical s addr).readMap m =
      (s.readMap m).drop fun q => q &&& 0x1f000000 == addr := rfl

lemma writeMap_invalidatePhysical (s : Machine cfg D) (addr : UInt32) (m : Bool) :
    (cp15TlbInvalidatePhysical s addr).writeMap m =
      (s.writeMap m).drop fun q => q &&& 0x1f000000 == addr := rfl

lemma Coherent.invalidatePhysical (h : Coherent H W p s) (addr : UInt32) :
    Coherent H W p (cp15TlbInvalidatePhysical s addr) where
  tlb := h.tlb
  reads := by
    intro m e he
    rw [readMap_invalidatePhysical] at he
    exact h.reads m e (RingMap.entry_of_drop he)
  writes := by
    intro m e he
    rw [writeMap_invalidatePhysical] at he
    exact h.writes m e (RingMap.entry_of_drop he)
  cached := h.cached
  off := h.off

end Caches

end RpcEmu.Mmu
