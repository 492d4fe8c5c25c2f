import RpcEmu.Mmu.Coherent

/-!
# The tables within one page

A walk reads the same descriptors for every address of a 4KB page; of what they hold, only the
permission can differ, between the 1KB sub-pages of a small page.
-/

namespace RpcEmu.Mmu

open Bytes Pages

section OnePage

variable {D : Type} {cfg : Config} {io : Devices D} {s t : Machine cfg D} {a b : UInt32}

lemma firstLevel_eq (h : page a = page b) : firstLevel s a = firstLevel s b := by
  have hidx : (a >>> 18) &&& (~~~3 : UInt32) = (b >>> 18) &&& (~~~3 : UInt32) :=
    shiftRight_and_eq_of_page h (by decide) (by decide)
  rw [firstLevel, firstLevel, hidx]

lemma sldAddr_eq (h : page a = page b) (fld : UInt32) : sldAddr fld a = sldAddr fld b := by
  have hidx : (a >>> 10) &&& (0x3fc : UInt32) = (b >>> 10) &&& (0x3fc : UInt32) :=
    shiftRight_and_eq_of_page h (by decide) (by decide)
  rw [sldAddr, sldAddr, hidx]

lemma secondLevel_page (h : page a = page b) {domain sld d ap phys : UInt32} {sec : Bool}
    (ha : secondLevel domain sld a = .page sec d ap phys) :
    ∃ ap', secondLevel domain sld b = .page sec d ap' (frame phys ||| low b) := by
  unfold secondLevel at ha ⊢
  split_ifs at ha ⊢
  · simp only [Descent.page.injEq] at ha
    obtain ⟨rfl, rfl, -, rfl⟩ := ha
    exact ⟨_, congrArg _ (base_or_eq_of_page h (by decide) (by decide) sld)⟩
  · simp only [Descent.page.injEq] at ha
    obtain ⟨rfl, rfl, -, rfl⟩ := ha
    exact ⟨_, congrArg _ (base_or_eq_of_page h (by decide) (by decide) sld)⟩

/-- **The addresses of a page share its Domain and its physical page.** -/
lemma tables_page (h : page a = page b) {d ap phys : UInt32} {sec : Bool}
    (ha : tables io s a = .page sec d ap phys) :
    ∃ ap', tables io s b = .page sec d ap' (frame phys ||| low b) := by
  unfold tables descend at ha ⊢
  rw [← firstLevel_eq h]
  cases hf : firstLevel s a with
  | none =>
    rw [hf] at ha
    cases ha
  | some fld =>
    simp only [hf] at ha ⊢
    rw [← sldAddr_eq h]
    split_ifs at ha ⊢
    · exact secondLevel_page h ha
    · simp only [Descent.page.injEq] at ha
      obtain ⟨rfl, rfl, -, rfl⟩ := ha
      exact ⟨_, congrArg _ (base_or_eq_of_page h (by decide) (by decide) fld)⟩

/-- The page's descriptors give it one permission. -/
def OnePermission (T : UInt32 → Descent) (p : UInt32) : Prop :=
  ∀ a b, page a = p → page b = p → ∀ sec d ap phys sec' d' ap' phys',
    T a = .page sec d ap phys → T b = .page sec' d' ap' phys' → ap = ap'

/-- The domain, and as a client the permission, allow the access. -/
def Allowed (ctrl domainAccess : UInt32) (m : Bool) (ap : UInt32) (rw : IsWrite) : Prop :=
  domainAccess ≠ 0 ∧ domainAccess ≠ 2 ∧
    (domainAccess = 1 → cp15CheckPermissions ctrl m ap rw = false)

def grantMask (ctrl domainAccess ap : UInt32) : UInt8 :=
  cp15PermMask ctrl domainAccess (if domainAccess = 1 then ap else 3)

/-- **A grant, taken apart.** -/
lemma granted_iff {ctrl dac phys : UInt32} {m : Bool} {rw : IsWrite} {perm : UInt8} {x : Descent} :
    grant ctrl dac m rw x = .granted phys perm ↔
      ∃ sec d ap, x = .page sec d ap phys ∧ Allowed ctrl (cp15DomainAccess dac d) m ap rw ∧
        perm = grantMask ctrl (cp15DomainAccess dac d) ap := by
  constructor
  · intro h
    cases x with
    | fatal => cases h
    | none domain code => cases h
    | page sec d ap phys' =>
      simp only [grant] at h
      split at h
      · cases h
      · rename_i hd
        split at h
        · cases h
        · rename_i hc
          simp only [Walked.granted.injEq] at h
          obtain ⟨rfl, rfl⟩ := h
          rw [not_or] at hd
          refine ⟨sec, d, ap, rfl, ⟨hd.1, hd.2, fun h1 => ?_⟩, rfl⟩
          rw [not_and] at hc
          simpa using hc h1
  · rintro ⟨sec, d, ap, rfl, ⟨h0, h2, h1⟩, rfl⟩
    have hd : ¬ (cp15DomainAccess dac d = 0 ∨ cp15DomainAccess dac d = 2) := not_or.mpr ⟨h0, h2⟩
    have hc : ¬ (cp15DomainAccess dac d = 1 ∧ cp15CheckPermissions ctrl m ap rw = true) := by
      rintro ⟨hone, hcheck⟩
      rw [h1 hone] at hcheck
      cases hcheck
    simp only [grant, hd, hc, if_false]
    rfl

lemma permits_grantMask {ctrl domainAccess ap : UInt32} {m m' : Bool} {rw rw' : IsWrite}
    (h : Allowed ctrl domainAccess m ap rw) :
    permits (grantMask ctrl domainAccess ap) m' rw' = true ↔ Allowed ctrl domainAccess m' ap rw' := by
  rw [grantMask, permits_cp15PermMask]
  by_cases h1 : domainAccess = 1
  · subst h1
    simp [Allowed]
  · have h3 : cp15CheckPermissions ctrl m' 3 rw' = false := rfl
    simp [Allowed, h1, h3, h.1, h.2.1]

/-- The page's permissions allow the same. -/
def SameEffect (ctrl : UInt32) (T : UInt32 → Descent) (p : UInt32) : Prop :=
  ∀ a b, page a = p → page b = p → ∀ sec d ap phys sec' d' ap' phys',
    T a = .page sec d ap phys → T b = .page sec' d' ap' phys' →
    ∀ m rw, cp15CheckPermissions ctrl m ap rw = cp15CheckPermissions ctrl m ap' rw

lemma grantMask_congr {ctrl domainAccess ap ap' : UInt32}
    (h : ∀ m rw, cp15CheckPermissions ctrl m ap rw = cp15CheckPermissions ctrl m ap' rw) :
    grantMask ctrl domainAccess ap = grantMask ctrl domainAccess ap' := by
  unfold grantMask
  by_cases h1 : domainAccess = 1
  · simp only [h1, if_true, cp15PermMask, h]
  · simp only [h1, if_false]

/-- **With permissions of one effect, the walk has one answer for the page.** -/
theorem uniform_of_sameEffect {p : UInt32} (h : SameEffect s.ctrl (tables io s) p) :
    Uniform (walk io s) p where
  page_granted := by
    intro m a b rw phys perm ha hb hg
    obtain ⟨sec, d, ap, hta, hal, rfl⟩ := granted_iff.mp hg
    obtain ⟨ap', htb⟩ := tables_page (ha.trans hb.symm) hta
    have heff := h a b ha hb _ _ _ _ _ _ _ _ hta htb
    refine granted_iff.mpr ⟨sec, d, ap', htb, ⟨hal.1, hal.2.1, fun h1 => ?_⟩, grantMask_congr heff⟩
    rw [← heff, hal.2.2 h1]
  perm_granted := by
    intro m m' a rw rw' phys perm _ hg hperm
    obtain ⟨sec, d, ap, hta, hal, rfl⟩ := granted_iff.mp hg
    exact granted_iff.mpr ⟨sec, d, ap, hta, (permits_grantMask hal).mp hperm, rfl⟩
  one_phys := by
    intro m m' a rw rw' phys phys' perm perm' _ hg hg'
    obtain ⟨sec, d, ap, hta, -, -⟩ := granted_iff.mp hg
    obtain ⟨sec', d', ap', hta', -, -⟩ := granted_iff.mp hg'
    rw [hta, Descent.page.injEq] at hta'
    exact hta'.2.2.2

theorem uniform_of_onePermission {p : UInt32} (h : OnePermission (tables io s) p) :
    Uniform (walk io s) p := by
  refine uniform_of_sameEffect fun a b ha hb _ _ _ _ _ _ _ _ hta htb m rw => ?_
  rw [h a b ha hb _ _ _ _ _ _ _ _ hta htb]

lemma walk_congr_at (htab : tables io t a = tables io s a)
    (hctrl : t.ctrl &&& 0x300 = s.ctrl &&& 0x300)
    (hdac : t.domainAccessControl = s.domainAccessControl) (m : Bool) (rw : IsWrite) :
    walk io t m a rw = walk io s m a rw := by
  have hcheck : ∀ m ap rw, cp15CheckPermissions t.ctrl m ap rw =
      cp15CheckPermissions s.ctrl m ap rw := by
    intro m ap rw
    simp only [cp15CheckPermissions, hctrl]
  have hmask : ∀ da ap, cp15PermMask t.ctrl da ap = cp15PermMask s.ctrl da ap := by
    intro da ap
    simp only [cp15PermMask, hcheck]
  rw [walk, walk, htab, hdac]
  cases tables io s a with
  | fatal => rfl
  | none domain code => rfl
  | page sec d ap phys => simp only [grant, hcheck, hmask]

lemma walk_congr (htab : tables io t = tables io s) (hctrl : t.ctrl &&& 0x300 = s.ctrl &&& 0x300)
    (hdac : t.domainAccessControl = s.domainAccessControl) : walk io t = walk io s := by
  funext m addr rw
  exact walk_congr_at (congrFun htab addr) hctrl hdac m rw

end OnePage

end RpcEmu.Mmu
