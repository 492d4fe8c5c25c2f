import RpcEmu.Mmu.FastMaps

/-!
# Permissions of the sub-pages of a small page

A small page has an access permission for each of its four 1KB sub-pages, and the walk decides by the
one its address is in.  Every cache in front of the walk is per 4KB page, and holds the permission of
the sub-page that was touched first.

* **Enforced**: in every sequence of accesses to the page, each aborts exactly when the permission of
  its own sub-page refuses it.
* `subPages_enforced_iff`: that is so exactly for the descriptors whose four permissions refuse the
  same accesses.
-/

namespace RpcEmu.Mmu

open Bytes Pages

def apField (sld : UInt32) (i : Fin 4) : UInt32 := (sld >>> (UInt32.ofNat (2 * i.val) + 4)) &&& 3

local instance subPages_ne_zero : NeZero 4 := ⟨by decide⟩

def subPage (addr : UInt32) : Fin 4 := Fin.ofNat 4 ((addr &&& 0xc00) >>> 10).toNat

lemma subPageBits_cases (addr : UInt32) :
    addr &&& 0xc00 = 0 ∨ addr &&& 0xc00 = 0x400 ∨ addr &&& 0xc00 = 0x800 ∨
      addr &&& 0xc00 = 0xc00 := by
  have hbits : addr &&& 0xc00 =
      (if bit addr 10 then 0x400 else 0) ||| (if bit addr 11 then 0x800 else 0) := by
    apply ext_bit
    intro i hi
    have h10 : bit 0x400 i = decide (10 ≤ i ∧ i < 11) := bit_ones (by decide) hi
    have h11 : bit 0x800 i = decide (11 ≤ i ∧ i < 12) := bit_ones (by decide) hi
    have h12 : bit 0xc00 i = decide (10 ≤ i ∧ i < 12) := bit_ones (by decide) hi
    rcases Nat.lt_trichotomy i 10 with h | rfl | h
    · cases bit addr 10 <;> cases bit addr 11 <;>
        simp [h10, h11, h12, Nat.not_le.mpr h, Nat.not_le.mpr (Nat.lt_succ_of_lt h)]
    · cases hb : bit addr 10 <;> cases bit addr 11 <;> simp [h10, h11, h12, hb]
    · rcases Nat.lt_trichotomy i 11 with h' | rfl | h'
      · omega
      · cases bit addr 10 <;> cases hb : bit addr 11 <;> simp [h10, h11, h12, hb]
      · have h1 : ¬ i < 11 := by omega
        have h2 : ¬ i < 12 := by omega
        cases bit addr 10 <;> cases bit addr 11 <;> simp [h10, h11, h12, h1, h2]
  rw [hbits]
  cases bit addr 10 <;> cases bit addr 11 <;> decide

/-- The four sub-pages allow the same. -/
def SameAccess (ctrl sld : UInt32) : Prop :=
  ∀ i j m rw, cp15CheckPermissions ctrl m (apField sld i) rw =
    cp15CheckPermissions ctrl m (apField sld j) rw

section SubPages

variable {D : Type} {cfg : Config}

/-- The page is mapped by the small-page descriptor `sld`, in memory and in a client Domain. -/
structure SmallPage (io : Devices D) (s : Machine cfg D) (p domain sld : UInt32) : Prop where
  small : sld &&& 3 = 2
  client : cp15DomainAccess s.domainAccessControl domain = 1
  mapped : ∀ dev a, page a = p → tables io { s with dev := dev } a = secondLevel domain sld a

def accessAt (io : Devices D) (s : Machine cfg D) (m : Bool) (a : Access) :
    Option (UInt32 × Machine cfg D) :=
  access io { memSetPrivilege s m with abort := false } a

/-- Accesses in the one page. -/
inductive PageRun (io : Devices D) (p domain sld : UInt32) (s : Machine cfg D) : Machine cfg D → Prop
  | nil : PageRun io p domain sld s s
  | access {u t : Machine cfg D} {m : Bool} {a : Access} {v : UInt32}
      (h : PageRun io p domain sld s u) (hp : page a.addr = p)
      (hr : accessAt io u m a = some (v, t)) (hpage : SmallPage io t p domain sld) :
      PageRun io p domain sld s t

/-- **Permissions are enforced by sub-page**: after any sequence of accesses to the page, an access
aborts exactly when its own sub-page refuses it. -/
def Enforced (io : Devices D) (s : Machine cfg D) (p domain sld : UInt32) : Prop :=
  ∀ u, PageRun io p domain sld s u → ∀ m a, page a.addr = p →
    ∃ v t, accessAt io u m a = some (v, t) ∧ (t.abort = true ↔
      cp15CheckPermissions s.ctrl m (apField sld (subPage a.addr)) a.isWrite = true)

variable {io : Devices D} {s t u : Machine cfg D} {p domain sld : UInt32}

lemma secondLevel_small (hsmall : sld &&& 3 = 2) (d addr : UInt32) :
    secondLevel d sld addr = .page false d (apField sld (subPage addr))
      ((sld &&& 0xfffff000) ||| (addr &&& 0xfff)) := by
  have hshift : (addr &&& 0xc00) >>> 9 = UInt32.ofNat (2 * (subPage addr).val) := by
    unfold subPage
    rcases subPageBits_cases addr with h | h | h | h <;> rw [h] <;> decide
  have h1 : ¬ (2 : UInt32) = 1 := by decide
  simp only [secondLevel, hsmall, h1, if_false, if_true, hshift]
  rfl

lemma SmallPage.tables (h : SmallPage io s p domain sld) {a : UInt32} (ha : page a = p) :
    tables io s a = .page false domain (apField sld (subPage a))
      ((sld &&& 0xfffff000) ||| (a &&& 0xfff)) := by
  rw [← secondLevel_small h.small, ← h.mapped s.dev a ha]

lemma SmallPage.walk (h : SmallPage io s p domain sld) {a : UInt32} (ha : page a = p) (m : Bool)
    (rw : IsWrite) :
    (∃ code, cp15CheckPermissions s.ctrl m (apField sld (subPage a)) rw = true ∧
      walk io s m a rw = .refused domain code) ∨
    (∃ perm, cp15CheckPermissions s.ctrl m (apField sld (subPage a)) rw = false ∧
      walk io s m a rw = .granted ((sld &&& 0xfffff000) ||| (a &&& 0xfff)) perm) := by
  have h0 : ¬ ((1 : UInt32) = 0 ∨ (1 : UInt32) = 2) := by decide
  rw [Mmu.walk, h.tables ha]
  simp only [grant, h.client, h0, if_false, true_and, if_true]
  cases hc : cp15CheckPermissions s.ctrl m (apField sld (subPage a)) rw with
  | true => exact .inl ⟨_, rfl, if_pos rfl⟩
  | false => exact .inr ⟨_, rfl, if_neg (by simp)⟩

/-! ## Permissions of one effect are enforced -/

lemma SmallPage.sameEffect (h : SmallPage io s p domain sld) (hsame : SameAccess s.ctrl sld) :
    SameEffect s.ctrl (Mmu.tables io s) p := by
  intro a b ha hb sec d' ap phys sec' d'' ap' phys' hta htb m rw
  rw [h.tables ha, Descent.page.injEq] at hta
  rw [h.tables hb, Descent.page.injEq] at htb
  rw [← hta.2.2.1, ← htb.2.2.1]
  exact hsame _ _ m rw

lemma PageRun.kept (hrun : PageRun io p domain sld s u) (h : Coherent False (Mmu.walk io s) p s)
    (hpage : SmallPage io s p domain sld) (hsame : SameAccess s.ctrl sld) :
    Coherent False (Mmu.walk io u) p u ∧ SmallPage io u p domain sld ∧ u.ctrl = s.ctrl := by
  induction hrun with
  | nil => exact ⟨h, hpage, rfl⟩
  | access hrun hp hr hpage' ih =>
    rename_i u t m a v
    obtain ⟨hcoh, hu, hctrl⟩ := ih
    have huni : Uniform (Mmu.walk io u) p :=
      uniform_of_sameEffect (hu.sameEffect (hctrl ▸ hsame))
    have hstart : Coherent False (Mmu.walk io u) p { memSetPrivilege u m with abort := false } :=
      hcoh.congr rfl rfl rfl rfl rfl rfl
    have hkept := access_kept hstart rfl (fun _ => huni) False.elim hr
    have hregs := access_same hr
    have hctrl' : t.ctrl = u.ctrl := hregs.ctrl
    have hdac' : t.domainAccessControl = u.domainAccessControl := hregs.domainAccessControl
    refine ⟨hkept.congr_walk fun m' b rw hb => ?_, hpage', hctrl'.trans hctrl⟩
    rw [Mmu.walk, Mmu.walk, hpage'.tables hb, hu.tables hb, hctrl', hdac']

lemma enforced_of_sameAccess (h : Coherent False (Mmu.walk io s) p s) (hon : mmuOn s = true)
    (hpage : SmallPage io s p domain sld) (hsame : SameAccess s.ctrl sld) :
    Enforced io s p domain sld := by
  intro u hrun m a hp
  obtain ⟨hcoh, hpage', hctrl⟩ := hrun.kept h hpage hsame
  have hu : Uniform (Mmu.walk io u) p := uniform_of_sameEffect (hpage'.sameEffect (hctrl ▸ hsame))
  have hstart : Coherent False (Mmu.walk io u) p { memSetPrivilege u m with abort := false } :=
    hcoh.congr rfl rfl rfl rfl rfl rfl
  have hon' : mmuOn { memSetPrivilege u m with abort := false } = true := by
    rw [← hon, mmuOn, mmuOn, ← hctrl]
    rfl
  subst hp
  have hex := access_exact (s := { memSetPrivilege u m with abort := false }) hstart hu hon' rfl
  have hwalk : Mmu.walk io { memSetPrivilege u m with abort := false } = Mmu.walk io u := rfl
  unfold ExactIf at hex
  rw [hwalk] at hex
  rw [← hctrl]
  rcases hpage'.walk rfl m a.isWrite with ⟨code, hcheck, hw⟩ | ⟨perm, hcheck, hw⟩
  · simp only [memSetPrivilege, hw] at hex
    obtain ⟨v, t, hr, hab, -⟩ := hex
    exact ⟨v, t, hr, by simp [hab, hcheck]⟩
  · simp only [memSetPrivilege, hw] at hex
    obtain ⟨v, t, hr, hab, -⟩ := hex
    exact ⟨v, t, hr, by simp [hab, hcheck]⟩

/-! ## Permissions that differ are not -/

def byteAccess (rw : IsWrite) (addr : UInt32) (val : UInt8) : Access :=
  if rw then .write8 addr val else .read8 addr

def byteCache (rw : IsWrite) : CacheOf := if rw then .bytes else .reads

def mapEntry (s : Machine cfg D) (rw : IsWrite) (p : UInt32) : Option HostPage :=
  if rw then (s.writeMap s.memmode).entry p else (s.readMap s.memmode).entry p

lemma byteAccess_addr (rw : IsWrite) (addr : UInt32) (val : UInt8) :
    (byteAccess rw addr val).addr = addr := by
  cases rw <;> rfl

lemma byteAccess_isWrite (rw : IsWrite) (addr : UInt32) (val : UInt8) :
    (byteAccess rw addr val).isWrite = rw := by
  cases rw <;> rfl

lemma byteCache_isWrite (rw : IsWrite) : (byteCache rw).isWrite = rw := by
  cases rw <;> rfl

/-- What a walk depends on is the same. -/
structure SameTables (s t : Machine cfg D) : Prop where
  ctrl : t.ctrl = s.ctrl
  domainAccessControl : t.domainAccessControl = s.domainAccessControl
  translationTable : t.translationTable = s.translationTable
  tlbram : t.tlbram = s.tlbram

lemma access_slowByte {rw : IsWrite} {addr phys : UInt32} (val : UInt8) (hon : mmuOn s = true)
    (hmiss : mapEntry s rw (page addr) = none)
    (ht : cachedTranslate io (memcacheCheckMode s) (byteCache rw) addr rw = some (some phys, u)) :
    ∃ v t, access io s (byteAccess rw addr val) = some (v, t) ∧ t.abort = u.abort ∧
      t.memcache = u.memcache ∧ t.memcacheMemmode = u.memcacheMemmode ∧ SameTables u t ∧
      t.mem = if rw then (memPhysWrite8 cfg io u.mem u.dev phys val).1 else u.mem := by
  cases rw with
  | false =>
    have hmiss' : (s.readMap s.memmode).entry (page addr) = none := hmiss
    have ht' : cachedTranslate io (memcacheCheckMode s) .reads addr false = some (some phys, u) := ht
    simp only [byteAccess, Bool.false_eq_true, if_false, access, memRead8, hmiss', readmemfb, hon,
      if_true, ht']
    split
    · exact ⟨_, _, rfl, rfl, rfl, rfl, ⟨rfl, rfl, rfl, rfl⟩, rfl⟩
    · exact ⟨_, _, rfl, rfl, rfl, rfl, ⟨rfl, rfl, rfl, rfl⟩, rfl⟩
  | true =>
    have hmiss' : (s.writeMap s.memmode).entry (page addr) = none := hmiss
    have ht' : cachedTranslate io (memcacheCheckMode s) .bytes addr true = some (some phys, u) := ht
    simp only [byteAccess, if_true, access, memWrite8, hmiss', writememfb, hon, ht',
      Option.map_some, enterAndWrite]
    split
    · exact ⟨_, _, rfl, rfl, rfl, rfl, ⟨rfl, rfl, rfl, rfl⟩, rfl⟩
    · exact ⟨_, _, rfl, rfl, rfl, rfl, ⟨rfl, rfl, rfl, rfl⟩, rfl⟩

/-- **A page in the page cache is not asked about again.** -/
lemma accessAt_cached {m : Bool} {rw : IsWrite} {addr : UInt32} (val : UInt8)
    (hon : mmuOn s = true) (hmode : s.memcacheMemmode = some m)
    (hpage : (s.memcache (byteCache rw)).page = some (page addr)) :
    ∃ v t, accessAt io s m (byteAccess rw addr val) = some (v, t) ∧ t.abort = false := by
  unfold accessAt
  cases hentry : mapEntry { memSetPrivilege s m with abort := false } rw (page addr) with
  | some e =>
    cases rw with
    | false =>
      have he : (s.readMap m).entry (page addr) = some e := hentry
      simp only [byteAccess, Bool.false_eq_true, if_false, access, memRead8, memSetPrivilege, he]
      exact ⟨_, _, rfl, rfl⟩
    | true =>
      have he : (s.writeMap m).entry (page addr) = some e := hentry
      simp only [byteAccess, if_true, access, memWrite8, memSetPrivilege, he]
      exact ⟨_, _, rfl, rfl⟩
  | none =>
    have hcheck : memcacheCheckMode { memSetPrivilege s m with abort := false } =
        { memSetPrivilege s m with abort := false } := by
      unfold memcacheCheckMode
      exact if_pos hmode
    have ht : cachedTranslate io (memcacheCheckMode { memSetPrivilege s m with abort := false })
        (byteCache rw) addr rw = some (some ((s.memcache (byteCache rw)).phys + low addr),
          { memSetPrivilege s m with abort := false }) := by
      rw [hcheck, cachedTranslate]
      exact if_pos hpage
    obtain ⟨v, t, hr, hab, -⟩ := access_slowByte
      (s := { memSetPrivilege s m with abort := false }) val hon hentry ht
    exact ⟨v, t, hr, hab⟩

lemma exists_memPhysWrite8_same (cfg : Config) (io : Devices D) (mem : Memory) (phys : UInt32) :
    ∃ val, ∀ dev : D, (memPhysWrite8 cfg io mem dev phys val).1 = mem := by
  have hset : ∀ (r : Region) off, Function.update mem r ((mem r).set off (mem r off)) = mem := by
    intro r off
    have hblock : (mem r).set off (mem r off) = mem r := by
      funext i
      unfold Block.set
      split
      · rename_i hi
        rw [hi]
      · rfl
    rw [hblock, Function.update_eq_self]
  cases hd : decode cfg (phys &&& physSpaceMask cfg) with
  | memory r off =>
    refine ⟨mem r off, fun dev => ?_⟩
    simp only [memPhysWrite8, hd]
    cases r <;> first | rfl | exact hset _ off
  | noVram => exact ⟨0, fun dev => by simp only [memPhysWrite8, hd]⟩
  | device => exact ⟨0, fun dev => by simp only [memPhysWrite8, hd]⟩
  | nothing => exact ⟨0, fun dev => by simp only [memPhysWrite8, hd]⟩

lemma SameTables.trans (h : SameTables s t) (h' : SameTables t u) : SameTables s u :=
  ⟨h'.ctrl.trans h.ctrl, h'.domainAccessControl.trans h.domainAccessControl,
    h'.translationTable.trans h.translationTable, h'.tlbram.trans h.tlbram⟩

lemma slow_sameTables {c : CacheOf} {addr : UInt32} {rw : IsWrite} {r : Option UInt32}
    (h : cachedTranslate io (memcacheCheckMode s) c addr rw = some (r, t)) :
    SameTables s t ∧ t.mem = s.mem ∧ t.memcacheMemmode = some s.memmode := by
  have hk := cachedTranslate_started h
  have hcheck : SameTables s (memcacheCheckMode s) := by
    unfold memcacheCheckMode
    split <;> exact ⟨rfl, rfl, rfl, rfl⟩
  refine ⟨hcheck.trans ⟨hk.ctrl, hk.domainAccessControl, hk.translationTable, hk.tlbram⟩, ?_, ?_⟩
  · rw [hk.mem, memcacheCheckMode_mem]
  · rw [hk.memcacheMemmode, memcacheCheckMode_mode, (memcacheCheckMode_same s).memmode]

lemma SmallPage.congr (h : SmallPage io s p domain sld) (hsame : SameTables s t)
    (hmem : t.mem = s.mem) : SmallPage io t p domain sld where
  small := h.small
  client := by rw [hsame.domainAccessControl, h.client]
  mapped := by
    intro dev a ha
    rw [← h.mapped dev a ha]
    simp only [Mmu.tables, descend, firstLevel, hsame.tlbram, hsame.translationTable, hmem]

/-- **A permitted access leaves its page in the page cache**, with nothing else changed. -/
lemma exists_accessAt_fills (h : Coherent False (Mmu.walk io s) p s) (hon : mmuOn s = true)
    (hpage : SmallPage io s p domain sld) {m : Bool} {rw : IsWrite} {addr : UInt32}
    (hmiss : mapEntry { memSetPrivilege s m with abort := false } rw (page addr) = none)
    (ha : page addr = p)
    (hcheck : cp15CheckPermissions s.ctrl m (apField sld (subPage addr)) rw = false) :
    ∃ val v t, accessAt io s m (byteAccess rw addr val) = some (v, t) ∧ t.ctrl = s.ctrl ∧
      t.memcacheMemmode = some m ∧ (t.memcache (byteCache rw)).page = some p ∧
      SmallPage io t p domain sld := by
  have hgrant : ∃ phys perm, Mmu.walk io s m addr rw = .granted phys perm := by
    rcases hpage.walk ha m rw with ⟨code, hc, -⟩ | ⟨perm, -, hw⟩
    · rw [hcheck] at hc
      cases hc
    · exact ⟨_, _, hw⟩
  obtain ⟨phys, perm, hw⟩ := hgrant
  have hstart : Coherent False (Mmu.walk io s) p { memSetPrivilege s m with abort := false } :=
    h.congr rfl rfl rfl rfl rfl rfl
  have hslow := slow_guest (s := { memSetPrivilege s m with abort := false }) (c := byteCache rw)
    hstart ha
  have hw' : Mmu.walk io { memSetPrivilege s m with abort := false } m addr rw =
      .granted phys perm := hw
  simp only [memSetPrivilege] at hw'
  simp only [byteCache_isWrite, memSetPrivilege, hw'] at hslow
  obtain ⟨u, -, hu, -, -, -⟩ := hslow trivial
  obtain ⟨val, hval⟩ := exists_memPhysWrite8_same cfg io s.mem phys
  obtain ⟨v, t, hr, -, hcache, hmode, htab, hmem⟩ := access_slowByte
    (s := { memSetPrivilege s m with abort := false }) val hon hmiss hu
  have hstarted := slow_sameTables hu
  have hstart' : SameTables s { memSetPrivilege s m with abort := false } := ⟨rfl, rfl, rfl, rfl⟩
  have hsame : SameTables s t := (hstart'.trans hstarted.1).trans htab
  have hkept : t.mem = s.mem := by
    have hus : u.mem = s.mem := hstarted.2.1
    rw [hmem, hus, hval]
    split <;> rfl
  refine ⟨val, v, t, hr, hsame.ctrl, hmode.trans hstarted.2.2, ?_, hpage.congr hsame hkept⟩
  rw [hcache, cachedTranslate_page hu, ha]

def subPageAddr (va : UInt32) (i : Fin 4) : UInt32 := frame va ||| low (UInt32.ofNat (i.val * 0x400))

lemma page_subPageAddr (va : UInt32) (i : Fin 4) : page (subPageAddr va i) = page va :=
  page_frame_or va _

lemma subPage_subPageAddr (va : UInt32) (i : Fin 4) : subPage (subPageAddr va i) = i := by
  have hbits : subPageAddr va i &&& 0xc00 = UInt32.ofNat (i.val * 0x400) &&& 0xc00 := by
    have hmask : ∀ a : UInt32, a &&& 0xc00 = low a &&& 0xc00 := by
      intro a
      rw [low, UInt32.and_assoc]
      rfl
    rw [hmask, subPageAddr, low_frame_or, ← hmask]
  rw [subPage, hbits]
  clear hbits
  revert i
  decide

/-- **Two sub-pages that differ**: the access the one permits lets the other's through. -/
lemma not_enforced (h : Coherent False (Mmu.walk io s) (page va) s) (hon : mmuOn s = true)
    (hmiss : ∀ m rw, mapEntry { memSetPrivilege s m with abort := false } rw (page va) = none)
    (hpage : SmallPage io s (page va) domain sld) {i j : Fin 4} {m : Bool} {rw : IsWrite}
    (hi : cp15CheckPermissions s.ctrl m (apField sld i) rw = false)
    (hj : cp15CheckPermissions s.ctrl m (apField sld j) rw = true) :
    ¬ Enforced io s (page va) domain sld := by
  intro henf
  have hpi := page_subPageAddr va i
  have hpj := page_subPageAddr va j
  have hmissi : mapEntry { memSetPrivilege s m with abort := false } rw (page (subPageAddr va i)) =
      none := by rw [hpi, hmiss]
  rw [← subPage_subPageAddr va i] at hi
  obtain ⟨val, v, t, hr, hctrl, hmode, hcache, hpage'⟩ :=
    exists_accessAt_fills h hon hpage hmissi hpi hi
  have hrun : PageRun io (page va) domain sld s t :=
    .access .nil (by rw [byteAccess_addr, hpi]) hr hpage'
  have hon' : mmuOn t = true := by rw [← hon, mmuOn, mmuOn, hctrl]
  obtain ⟨v', t', hr', hab⟩ := henf t hrun m (byteAccess rw (subPageAddr va j) val)
    (by rw [byteAccess_addr, hpj])
  rw [← hpj] at hcache
  obtain ⟨v'', t'', hr'', hab''⟩ := accessAt_cached val hon' hmode hcache
  rw [hr'', Option.some.injEq, Prod.mk.injEq] at hr'
  rw [byteAccess_addr, byteAccess_isWrite, subPage_subPageAddr, ← hr'.2, hab'', hj] at hab
  exact absurd (hab.mpr rfl) (by simp)

lemma mapEntry_of_flushed (h : Coherent False (fun _ _ _ => .fatal) (page va) s) (m : Bool)
    (rw : IsWrite) : mapEntry { memSetPrivilege s m with abort := false } rw (page va) = none := by
  cases hentry : mapEntry { memSetPrivilege s m with abort := false } rw (page va) with
  | none => rfl
  | some e =>
    have hgrant : ∃ fr, Grants (fun _ _ _ => .fatal) (page va) m rw fr := by
      cases rw with
      | false =>
        obtain ⟨fr, hg, -⟩ := h.reads m e hentry
        exact ⟨fr, hg⟩
      | true =>
        obtain ⟨fr, hg, -⟩ := h.writes m e hentry
        exact ⟨fr, hg⟩
    obtain ⟨fr, hg⟩ := hgrant
    obtain ⟨perm, hw⟩ := hg.granted rfl
    cases hw

/-- **Sub-page permissions are enforced exactly where they do not differ**: from a flush on, every
access to a small page aborts by its own sub-page's permission if and only if the four permissions
refuse the same accesses, under the S and R bits in force. -/
theorem subPages_enforced_iff (io : Devices D) (s₀ s : Machine cfg D) (op : Op D) (v : UInt32)
    (hf : Flushes s₀ op) (hs : step io s₀ op = some (v, s)) (hon : mmuOn s = true)
    (va domain sld : UInt32) (hpage : SmallPage io s (page va) domain sld) :
    Enforced io s (page va) domain sld ↔ SameAccess s.ctrl sld := by
  constructor
  · intro henf i j m rw
    have hempty : ∀ W, Coherent False W (page va) s := fun W => coherent_of_flushes hf hs
    have hmiss := mapEntry_of_flushed (hempty _)
    have hcoh := hempty (Mmu.walk io s)
    cases hi : cp15CheckPermissions s.ctrl m (apField sld i) rw with
    | false =>
      cases hj : cp15CheckPermissions s.ctrl m (apField sld j) rw with
      | false => rfl
      | true => exact absurd henf (not_enforced hcoh hon hmiss hpage hi hj)
    | true =>
      cases hj : cp15CheckPermissions s.ctrl m (apField sld j) rw with
      | false => exact absurd henf (not_enforced hcoh hon hmiss hpage hj hi)
      | true => rfl
  · exact enforced_of_sameAccess (coherent_of_flushes hf hs) hon hpage

end SubPages

section Gap

/-- Page tables that map the first page by the small-page descriptor `sld`: the first-level table
starts SIMM 0's first bank, the second-level table its second. -/
def subPageMem (sld : UInt32) : Memory := fun r =>
  if r = .ram00 then Block.fill 0x14000001 else if r = .ram01 then Block.fill sld else fun _ => 0

lemma subPageMem_smallPage {sld : UInt32} (hsmall : sld &&& 3 = 2) :
    SmallPage noDevices (tablesOn (subPageMem sld)) (page 0) 0 sld where
  small := hsmall
  client := by
    simp only [tablesOn]
    decide
  mapped := by
    intro dev a ha
    have hfld : firstLevel (tablesOn (subPageMem sld)) 0 = some 0x14000001 :=
      congrArg some (Block.word_fill _ (mul_four_and_three _))
    have hsld : memPhysRead32 cardConfig noDevices (subPageMem sld) () (sldAddr 0x14000001 0) =
        (sld, ()) :=
      congrArg (·, ()) (Block.word_fill _ (by decide))
    have hdesc : tables noDevices { tablesOn (subPageMem sld) with dev := dev } a =
        tables noDevices (tablesOn (subPageMem sld)) a := rfl
    rw [hdesc]
    simp only [tables, descend, firstLevel_eq ha, hfld, sldAddr_eq ha]
    exact congrArg (fun r => secondLevel 0 r.1 a) hsld

lemma subPageMem_flushed (sld : UInt32) :
    step noDevices (tablesSet (subPageMem sld)) (.cp15Write 0x10000 0x71) =
      some (0, tablesOn (subPageMem sld)) :=
  congrArg (fun s => some (0, s)) (tablesOn_reached _)

theorem subPages_enforced_iff_first :
    ¬ Enforced noDevices (tablesOn (subPageMem 0x02000032)) (page 0) 0 0x02000032 ∧
      Enforced noDevices (tablesOn (subPageMem 0x02000ff2)) (page 0) 0 0x02000ff2 := by
  have h : ∀ sld : UInt32, sld &&& 3 = 2 →
      (Enforced noDevices (tablesOn (subPageMem sld)) (page 0) 0 sld ↔ SameAccess 0x71 sld) :=
    fun sld hsmall => subPages_enforced_iff noDevices (tablesSet (subPageMem sld)) _ _ 0
      (tablesOn_flushes _) (subPageMem_flushed sld) (tablesOn_mmuOn _) 0 0 sld (subPageMem_smallPage hsmall)
  constructor
  · intro henf
    have hsame := (h _ (by decide)).mp henf 0 1 false false
    exact absurd hsame (by decide)
  · refine (h _ (by decide)).mpr fun i j m rw => ?_
    have hap : ∀ i, apField 0x02000ff2 i = 3 := by decide
    rw [hap, hap]

/-- **Not every access aborts by its own sub-page**: with the first sub-page open to User and the
others closed, a User read of the first lets a User read of the second through. -/
theorem otherSubPage_read :
    ¬ ∀ (s₀ s : Machine cardConfig Unit) (op : Op Unit) (v : UInt32), Flushes s₀ op →
      step noDevices s₀ op = some (v, s) → mmuOn s = true → ∀ va domain sld,
        SmallPage noDevices s (page va) domain sld → Enforced noDevices s (page va) domain sld := by
  intro hall
  have hpage := subPageMem_smallPage (by decide : (0x02000032 : UInt32) &&& 3 = 2)
  have hcoh : ∀ W, Coherent False W (page 0) (tablesOn (subPageMem 0x02000032)) := fun W =>
    coherent_of_flushes (tablesOn_flushes _) (subPageMem_flushed _)
  have henf := hall _ _ _ 0 (tablesOn_flushes _) (subPageMem_flushed 0x02000032)
    (tablesOn_mmuOn _) 0 0 _ hpage
  have hopen : cp15CheckPermissions 0x71 false (apField 0x02000032 0) false = false := by decide
  have hclosed : cp15CheckPermissions 0x71 false (apField 0x02000032 1) false = true := by decide
  exact not_enforced (hcoh _) (tablesOn_mmuOn _) (mapEntry_of_flushed (hcoh _)) hpage hopen hclosed
    henf

end Gap

end RpcEmu.Mmu
