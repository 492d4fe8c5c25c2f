import RpcEmu.Mmu.Decoders
import RpcEmu.Mmu.Kept

/-!
# The MMU without its caches

What a guest may rely on: registers, memory and devices (`Guest`), and what each operation does to
them (`Guest.step`).  There is no TLB here and no fast map; every access walks the tables.

* **One access** (`access_means`): from coherent caches it aborts exactly when the walk refuses it, and
  otherwise reaches the cell at the walked address, if it is a byte or aligned.  A fast map reads and
  writes an unaligned word where it is, a physical access at the word that holds it.
* **Refinement.**  `answered_guest`: from sound caches (`Sound`) an operation does to the guest's part
  of the machine what this model says, and gives the processor the same value or page.
* **Soundness** is coherence of every page whose descriptors have not changed since the last flush
  (`Sound.step`).  With the MMU off the caches are coherent with any walk at all, so they are empty.
* **What an access has to be** (`Plain`): of a page with one permission that was not edited since the
  last flush, whose descriptors are not in a device; and where it is granted, aligned and with no
  abort pending.
-/

namespace RpcEmu.Mmu

open Bytes Pages

/-! ## The model -/

structure Guest (D : Type) where
  mem : Memory
  dev : D
  ctrl : UInt32
  translationTable : UInt32
  domainAccessControl : UInt32
  faultStatus : UInt32
  faultAddress : UInt32
  tlbram : Option (Region × UInt32)
  mode : UInt32
  memmode : Bool
  abort : Bool
  pccache : Option UInt32

abbrev Answer := UInt32 × Option HostPage

section Model

variable {D : Type} {cfg : Config}

def Machine.guest (s : Machine cfg D) : Guest D where
  mem := s.mem
  dev := s.dev
  ctrl := s.ctrl
  translationTable := s.translationTable
  domainAccessControl := s.domainAccessControl
  faultStatus := s.faultStatus
  faultAddress := s.faultAddress
  tlbram := s.tlbram
  mode := s.mode
  memmode := s.memmode
  abort := s.abort
  pccache := s.pccache

variable (cfg) (io : Devices D) (g : Guest D)

def Guest.bare : Machine cfg D where
  mem := g.mem
  dev := g.dev
  ctrl := g.ctrl
  translationTable := g.translationTable
  domainAccessControl := g.domainAccessControl
  faultStatus := g.faultStatus
  faultAddress := g.faultAddress
  tlbram := g.tlbram
  mode := g.mode
  memmode := g.memmode
  abort := g.abort
  tlb := .empty
  readMap := fun _ => .empty
  writeMap := fun _ => .empty
  memcache := fun _ => ⟨none, 0⟩
  memcacheMemmode := none
  pccache := g.pccache

def Guest.faulted (addr domain code : UInt32) : Guest D :=
  { g with abort := true, faultAddress := addr, faultStatus := (domain <<< 4) ||| code }

def Guest.physical (phys : UInt32) : Access → UInt32 × Guest D
  | .read32 _ =>
    ((memPhysRead32 cfg io g.mem g.dev phys).1,
      { g with dev := (memPhysRead32 cfg io g.mem g.dev phys).2 })
  | .read8 _ =>
    ((memPhysRead8 cfg io g.mem g.dev phys).1,
      { g with dev := (memPhysRead8 cfg io g.mem g.dev phys).2 })
  | .write32 _ val =>
    (0, { g with mem := (memPhysWrite32 cfg io g.mem g.dev phys val).1,
                 dev := (memPhysWrite32 cfg io g.mem g.dev phys val).2 })
  | .write8 _ val =>
    (0, { g with mem := (memPhysWrite8 cfg io g.mem g.dev phys val).1,
                 dev := (memPhysWrite8 cfg io g.mem g.dev phys val).2 })

/-- **An access without caches**, at a privilege. -/
def Guest.access (m : Bool) (a : Access) : Option (UInt32 × Guest D) :=
  if mmuOn (g.bare cfg) then
    match walk io (g.bare cfg) m a.addr a.isWrite with
    | .fatal => none
    | .refused domain code => some (0, g.faulted a.addr domain code)
    | .granted phys _ => some (g.physical cfg io phys a)
  else some (g.physical cfg io a.addr a)

/-- **A fetch without caches.**  A refused one is a Prefetch Abort, and so is one that finds an abort
pending; either way none is left. -/
def Guest.fetch (addr : UInt32) : Option (Option HostPage × Guest D) :=
  if mmuOn (g.bare cfg) then
    match walk io (g.bare cfg) g.memmode (frame addr) false with
    | .fatal => none
    | .refused _ _ => some (none, { g with abort := false })
    | .granted phys _ =>
      if g.abort then some (none, { g with abort := false }) else some (fetchHost cfg phys, g)
  else some (fetchHost cfg (frame addr), g)

def Guest.step : Op D → Option (Answer × Guest D)
  | .access a => (g.access cfg io g.memmode a).map fun r => ((r.1, none), r.2)
  | .userAccess a => (g.access cfg io false a).map fun r => ((r.1, none), r.2)
  | .updatemode m => some ((0, none), (updatemode (g.bare cfg) m).guest)
  | .cp15Write opcode val => some ((0, none), (cp15Write (g.bare cfg) opcode val).guest)
  | .invalidatePhysical _ => some ((0, none), g)
  | .fetch addr => (g.fetch cfg io addr).map fun r => ((0, r.1), r.2)
  | .takeAbort => some ((0, none), { g with abort := false })
  | .others mem dev => some ((0, none), { g with mem := mem, dev := dev })

end Model

section Answered

variable {D : Type} {cfg : Config} (io : Devices D) (s : Machine cfg D)

def answered : Op D → Option (Answer × Machine cfg D)
  | .fetch addr => (getpccache io s addr).map fun r => ((0, r.1), r.2)
  | op => (step io s op).map fun r => ((r.1, none), r.2)

lemma answered_step (op : Op D) : (answered io s op).map (fun r => (r.1.1, r.2)) = step io s op := by
  cases op <;> simp [answered, step, Function.comp_def]

def onGuest {α : Type} (r : α × Machine cfg D) : α × Guest D := (r.1, r.2.guest)

/-- The walk leaves the devices alone. -/
def Quiet (addr : UInt32) : Prop := (descend io s addr).2 = s.dev

/-- The devices as they were, or as the walk leaves them. -/
def AfterWalk (addr : UInt32) (d : D) : Prop := d = s.dev ∨ d = (descend io s addr).2

end Answered

def Access.aligned : Access → Bool
  | .read32 addr | .write32 addr _ => addr &&& 3 == 0
  | .read8 _ | .write8 _ _ => true

/-- The walk grants the access. -/
def Granted {D : Type} {cfg : Config} (io : Devices D) (s : Machine cfg D) (m : Bool) (a : Access) :
    Prop :=
  ∃ phys perm, walk io s m a.addr a.isWrite = .granted phys perm

/-! ## Accesses with the MMU on -/

section On

variable {D : Type} {cfg : Config} {io : Devices D} {H : Prop} {W : WalkFn} {p : UInt32}
  {s t : Machine cfg D} {addr : UInt32} {c : CacheOf}

lemma AfterWalk.quiet {d : D} (h : AfterWalk io s addr d) (hq : Quiet io s addr) : d = s.dev := by
  rcases h with h | h
  · exact h
  · exact h.trans hq

lemma translateaddress_guest (h : Held H (walk io s) p s) (hp : page addr = p) (rw : IsWrite)
    (isPrefetch : Bool) :
    match walk io s s.memmode addr rw with
    | .fatal => translateaddress io s addr rw isPrefetch = none
    | .refused domain code => ∃ t d, translateaddress io s addr rw isPrefetch = some (0, t) ∧
        AfterWalk io s addr d ∧ t.guest =
          if isPrefetch then { s.guest with dev := d, abort := true }
          else ({ s.guest with dev := d } : Guest D).faulted addr domain code
    | .granted phys _ => ∃ t d, translateaddress io s addr rw isPrefetch = some (phys, t) ∧
        AfterWalk io s addr d ∧ t.guest = { s.guest with dev := d } := by
  have hwalked : match walk io s s.memmode addr rw with
      | .fatal => translateaddress2 io s addr rw isPrefetch = none
      | .refused domain code => ∃ t d, translateaddress2 io s addr rw isPrefetch = some (0, t) ∧
          AfterWalk io s addr d ∧ t.guest =
            if isPrefetch then { s.guest with dev := d, abort := true }
            else ({ s.guest with dev := d } : Guest D).faulted addr domain code
      | .granted phys _ => ∃ t d, translateaddress2 io s addr rw isPrefetch = some (phys, t) ∧
          AfterWalk io s addr d ∧ t.guest = { s.guest with dev := d } := by
    cases hw : walk io s s.memmode addr rw with
    | fatal => simp only [translateaddress2, hw]
    | refused domain code =>
      refine ⟨_, _, by simp only [translateaddress2, hw]; rfl, .inr rfl, ?_⟩
      cases isPrefetch <;> rfl
    | granted phys perm =>
      exact ⟨_, _, by simp only [translateaddress2, hw]; rfl, .inr rfl, rfl⟩
  unfold translateaddress
  cases he : s.tlb.entry (page addr) with
  | none => simpa only using hwalked
  | some e =>
    by_cases hperm : permits e.perm s.memmode rw = true
    · rw [hp] at he
      obtain ⟨perm, hg⟩ := (h.tlb e he _ _ hperm).granted hp
      simp only [hperm, if_true, hg]
      exact ⟨s, s.dev, rfl, .inl rfl, rfl⟩
    · simp only [hperm]
      exact hwalked

lemma cachedTranslate_guest (h : Coherent H (walk io s) p s) (hp : page addr = p)
    (hmode : s.memcacheMemmode = some s.memmode) :
    match walk io s s.memmode addr c.isWrite with
    | .fatal => cachedTranslate io s c addr c.isWrite = none
    | .refused domain code => ∃ t d, cachedTranslate io s c addr c.isWrite = some (none, t) ∧
        AfterWalk io s addr d ∧
          t.guest = ({ s.guest with dev := d } : Guest D).faulted addr domain code
    | .granted phys _ => s.abort = false → ∃ t d,
        cachedTranslate io s c addr c.isWrite = some (some phys, t) ∧ AfterWalk io s addr d ∧
          t.guest = { s.guest with dev := d } ∧ (t.memcache c).phys = frame phys := by
  by_cases hpage : (s.memcache c).page = some (page addr)
  · have hg := h.cached c s.memmode hmode (hp ▸ hpage)
    obtain ⟨perm, hgrant⟩ := hg.granted hp
    rw [hgrant]
    intro _
    refine ⟨s, s.dev, ?_, .inl rfl, rfl, ?_⟩
    · rw [cachedTranslate, if_pos hpage]
      rw [← hg.1, frame_add_low]
    · rw [← hg.1, frame_frame_or]
  · have hs : Held H (walk io s) p (setMemcache s c ⟨some (page addr), (s.memcache c).phys⟩) :=
      h.toHeld.congr rfl rfl rfl rfl
    have ht := translateaddress_guest
      (s := setMemcache s c ⟨some (page addr), (s.memcache c).phys⟩) hs hp c.isWrite false
    have hw : walk io (setMemcache s c ⟨some (page addr), (s.memcache c).phys⟩)
        (setMemcache s c ⟨some (page addr), (s.memcache c).phys⟩).memmode addr c.isWrite =
          walk io s s.memmode addr c.isWrite := rfl
    rw [hw] at ht
    simp only [cachedTranslate, if_neg hpage]
    cases hwalk : walk io s s.memmode addr c.isWrite with
    | fatal =>
      simp only [hwalk] at ht
      simp only [ht]
    | refused domain code =>
      simp only [hwalk] at ht
      obtain ⟨t, d, ht, hd, hguest⟩ := ht
      have hab : t.abort = true := congrArg Guest.abort hguest
      simp only [ht, hab, if_true]
      exact ⟨_, d, rfl, hd, hguest⟩
    | granted phys perm =>
      simp only [hwalk] at ht
      intro hnone
      obtain ⟨t, d, ht, hd, hguest⟩ := ht
      have hab : t.abort = false := (congrArg Guest.abort hguest).trans hnone
      simp only [ht, hab]
      exact ⟨_, d, rfl, hd, hguest, by simp [setMemcache]⟩

lemma memcacheCheckMode_guest (s : Machine cfg D) : (memcacheCheckMode s).guest = s.guest := by
  unfold memcacheCheckMode
  split <;> rfl

lemma slow_guest (h : Coherent H (walk io s) p s) (hp : page addr = p) :
    match walk io s s.memmode addr c.isWrite with
    | .fatal => cachedTranslate io (memcacheCheckMode s) c addr c.isWrite = none
    | .refused domain code => ∃ t d, cachedTranslate io (memcacheCheckMode s) c addr c.isWrite =
        some (none, t) ∧ AfterWalk io s addr d ∧
          t.guest = ({ s.guest with dev := d } : Guest D).faulted addr domain code
    | .granted phys _ => s.abort = false → ∃ t d,
        cachedTranslate io (memcacheCheckMode s) c addr c.isWrite = some (some phys, t) ∧
          AfterWalk io s addr d ∧ t.guest = { s.guest with dev := d } ∧
            (t.memcache c).phys = frame phys := by
  have hguest := memcacheCheckMode_guest s
  have hcoh : Coherent H (walk io (memcacheCheckMode s)) p (memcacheCheckMode s) := by
    rw [memcacheCheckMode_walk]
    exact h.checkMode
  have hafter : AfterWalk io (memcacheCheckMode s) addr = AfterWalk io s addr := by
    unfold memcacheCheckMode
    split <;> rfl
  have hstart := cachedTranslate_guest (c := c) hcoh hp (memcacheCheckMode_mode s)
  rw [memcacheCheckMode_walk, (memcacheCheckMode_same s).memmode, hguest, hafter,
    show (memcacheCheckMode s).abort = s.abort from congrArg Guest.abort hguest] at hstart
  exact hstart

lemma Uniform.phys_eq (hu : Uniform W p) {m : Bool} {rw : IsWrite} {phys : UInt32} {perm : UInt8}
    (hp : page addr = p) (hg : W m addr rw = .granted phys perm) :
    phys = frame phys ||| low addr := by
  have hself := hu.page_granted hp hp hg
  rw [hg, Walked.granted.injEq] at hself
  exact hself.1

/-- What an access comes to, by its walk; where `Q` holds, a granted one is the physical access. -/
def Means (Q : Prop) (io : Devices D) (s : Machine cfg D) (a : Access)
    (r : Option (UInt32 × Machine cfg D)) : Prop :=
  match walk io s s.memmode a.addr a.isWrite with
  | .fatal => r = none
  | .refused domain code => ∃ t d, r = some (0, t) ∧ AfterWalk io s a.addr d ∧
      t.guest = ({ s.guest with dev := d } : Guest D).faulted a.addr domain code
  | .granted phys _ => s.abort = false → ∃ v t, r = some (v, t) ∧ t.abort = false ∧
      (Q → ∃ d, AfterWalk io s a.addr d ∧
        (v, t.guest) = ({ s.guest with dev := d } : Guest D).physical cfg io phys a)

lemma Means.mono {Q Q' : Prop} {a : Access} {r : Option (UInt32 × Machine cfg D)}
    (h : Means Q io s a r) (hQ : Q' → Q) : Means Q' io s a r := by
  unfold Means at h ⊢
  cases hw : walk io s s.memmode a.addr a.isWrite with
  | fatal => simpa only [hw] using h
  | refused domain code => simpa only [hw] using h
  | granted phys perm =>
    simp only [hw] at h
    intro hab
    obtain ⟨v, t, hr, hta, hreach⟩ := h hab
    exact ⟨v, t, hr, hta, fun hq => hreach (hQ hq)⟩

/-- **The long way**, which translates the address by the walk and then makes the access. -/
lemma slow_means {a : Access} {Q : Prop} {r : Option (UInt32 × Machine cfg D)}
    (h : Coherent H (walk io s) p s) (hp : page a.addr = p) (hc : c.isWrite = a.isWrite)
    (hfatal : cachedTranslate io (memcacheCheckMode s) c a.addr a.isWrite = none → r = none)
    (hrefused : ∀ t, cachedTranslate io (memcacheCheckMode s) c a.addr a.isWrite = some (none, t) →
      ∃ u, r = some (0, u) ∧ u.guest = t.guest)
    (hgranted : ∀ phys perm t, walk io s s.memmode a.addr a.isWrite = .granted phys perm →
      cachedTranslate io (memcacheCheckMode s) c a.addr a.isWrite = some (some phys, t) →
      (t.memcache c).phys = frame phys → t.abort = false →
      ∃ v u, r = some (v, u) ∧ u.abort = false ∧ (Q → (v, u.guest) = t.guest.physical cfg io phys a)) :
    Means Q io s a r := by
  have hslow := slow_guest (c := c) h hp
  rw [hc] at hslow
  unfold Means
  cases hw : walk io s s.memmode a.addr a.isWrite with
  | fatal =>
    simp only [hw] at hslow
    exact hfatal hslow
  | refused domain code =>
    simp only [hw] at hslow
    obtain ⟨t, d, ht, hd, hguest⟩ := hslow
    obtain ⟨u, hr, hu⟩ := hrefused t ht
    exact ⟨u, d, hr, hd, hu.trans hguest⟩
  | granted phys perm =>
    simp only [hw] at hslow
    intro hab
    obtain ⟨t, d, ht, hd, hguest, hframe⟩ := hslow hab
    obtain ⟨v, u, hr, hu, hphys⟩ := hgranted phys perm t hw ht hframe ((congrArg Guest.abort hguest).trans hab)
    exact ⟨v, u, hr, hu, fun hq => ⟨d, hd, hguest ▸ hphys hq⟩⟩

lemma memRead32_means (h : Coherent H (walk io s) p s) (hu : Uniform (walk io s) p)
    (hp : page addr = p) (hon : mmuOn s = true) :
    Means (addr &&& 3 = 0) io s (.read32 addr) (memRead32 io s addr) := by
  unfold memRead32
  cases he : (s.readMap s.memmode).entry (page addr) with
  | some e =>
    rw [hp] at he
    obtain ⟨fr, hg, hhost⟩ := h.reads _ _ he
    obtain ⟨perm, hgrant⟩ := hg.granted hp
    simp only [Means, Access.addr, Access.isWrite, hgrant]
    refine fun hab => ⟨_, s, rfl, hab, fun hal => ⟨s.dev, .inl rfl, ?_⟩⟩
    rw [Guest.physical, memPhysRead32_of_readHost hhost hg.1 hal]
    rfl
  | none =>
    simp only [readmemfl, hon, if_true]
    refine slow_means (c := .reads) h hp rfl (fun ht => ?_) (fun t ht => ?_) (fun phys perm t hw ht hframe hab => ?_)
      <;> simp only [Access.addr, Access.isWrite] at ht <;> simp only [ht]
    · exact ⟨_, rfl, rfl⟩
    · simp only [hframe]
      cases hhost : readHost cfg (frame phys) with
      | some e =>
        refine ⟨_, _, rfl, hab, fun hal => ?_⟩
        rw [Guest.physical, hu.phys_eq hp hw, memPhysRead32_of_readHost hhost (frame_frame phys) hal,
          and_not_three hal]
        rfl
      | none => exact ⟨_, _, rfl, hab, fun _ => rfl⟩

lemma memRead8_means (h : Coherent H (walk io s) p s) (hu : Uniform (walk io s) p)
    (hp : page addr = p) (hon : mmuOn s = true) :
    Means True io s (.read8 addr) (memRead8 io s addr) := by
  unfold memRead8
  cases he : (s.readMap s.memmode).entry (page addr) with
  | some e =>
    rw [hp] at he
    obtain ⟨fr, hg, hhost⟩ := h.reads _ _ he
    obtain ⟨perm, hgrant⟩ := hg.granted hp
    simp only [Means, Access.addr, Access.isWrite, hgrant]
    refine fun hab => ⟨_, s, rfl, hab, fun _ => ⟨s.dev, .inl rfl, ?_⟩⟩
    rw [Guest.physical, memPhysRead8_of_readHost hhost hg.1]
    rfl
  | none =>
    simp only [readmemfb, hon, if_true]
    refine slow_means (c := .reads) h hp rfl (fun ht => ?_) (fun t ht => ?_) (fun phys perm t hw ht hframe hab => ?_)
      <;> simp only [Access.addr, Access.isWrite] at ht <;> simp only [ht]
    · exact ⟨_, rfl, rfl⟩
    · simp only [hframe]
      cases hhost : readHost cfg (frame phys) with
      | some e =>
        refine ⟨_, _, rfl, hab, fun _ => ?_⟩
        rw [Guest.physical, hu.phys_eq hp hw, memPhysRead8_of_readHost hhost (frame_frame phys)]
        rfl
      | none => exact ⟨_, _, rfl, hab, fun _ => rfl⟩

lemma enterAndWrite_guest (t : Machine cfg D) (c : CacheOf) (addr : UInt32)
    (write : Memory → D → Memory × D) :
    (enterAndWrite t c addr write).guest =
      { t.guest with mem := (write t.mem t.dev).1, dev := (write t.mem t.dev).2 } := by
  unfold enterAndWrite
  split <;> rfl

lemma memWrite32_means (h : Coherent H (walk io s) p s) (hp : page addr = p) (hon : mmuOn s = true)
    (val : UInt32) :
    Means (H ∧ addr &&& 3 = 0) io s (.write32 addr val)
      ((memWrite32 io s addr val).map fun t => (0, t)) := by
  unfold memWrite32
  cases he : (s.writeMap s.memmode).entry (page addr) with
  | some e =>
    rw [hp] at he
    obtain ⟨fr, hg, hhost⟩ := h.writes _ _ he
    obtain ⟨perm, hgrant⟩ := hg.granted hp
    simp only [Means, Access.addr, Access.isWrite, hgrant]
    refine fun hab => ⟨_, _, rfl, hab, fun hal => ⟨s.dev, .inl rfl, ?_⟩⟩
    obtain ⟨q, hq⟩ := hhost hal.1
    rw [Guest.physical, memPhysWrite32_of_writeHost hq hg.1 hal.2]
    rfl
  | none =>
    simp only [writememfl, hon, if_true]
    refine slow_means (c := .words) h hp rfl (fun ht => ?_) (fun t ht => ?_) (fun phys perm t _ ht _ hab => ?_)
      <;> simp only [Access.addr, Access.isWrite] at ht <;> simp only [ht, Option.map_none, Option.map_some]
    · exact ⟨_, rfl, rfl⟩
    · have hguest := enterAndWrite_guest t .words addr fun m d => memPhysWrite32 cfg io m d phys val
      exact ⟨_, _, rfl, (congrArg Guest.abort hguest).trans hab, fun _ => congrArg (Prod.mk 0) hguest⟩

lemma memWrite8_means (h : Coherent H (walk io s) p s) (hp : page addr = p) (hon : mmuOn s = true)
    (val : UInt8) :
    Means H io s (.write8 addr val) ((memWrite8 io s addr val).map fun t => (0, t)) := by
  unfold memWrite8
  cases he : (s.writeMap s.memmode).entry (page addr) with
  | some e =>
    rw [hp] at he
    obtain ⟨fr, hg, hhost⟩ := h.writes _ _ he
    obtain ⟨perm, hgrant⟩ := hg.granted hp
    simp only [Means, Access.addr, Access.isWrite, hgrant]
    refine fun hab => ⟨_, _, rfl, hab, fun hH => ⟨s.dev, .inl rfl, ?_⟩⟩
    obtain ⟨q, hq⟩ := hhost hH
    rw [Guest.physical, memPhysWrite8_of_writeHost hq hg.1]
    rfl
  | none =>
    simp only [writememfb, hon, if_true]
    refine slow_means (c := .bytes) h hp rfl (fun ht => ?_) (fun t ht => ?_) (fun phys perm t _ ht _ hab => ?_)
      <;> simp only [Access.addr, Access.isWrite] at ht <;> simp only [ht, Option.map_none, Option.map_some]
    · exact ⟨_, rfl, rfl⟩
    · have hguest := enterAndWrite_guest t .bytes addr fun m d => memPhysWrite8 cfg io m d phys val
      exact ⟨_, _, rfl, (congrArg Guest.abort hguest).trans hab, fun _ => congrArg (Prod.mk 0) hguest⟩

/-- **One access** from coherent caches, at the current privilege. -/
theorem access_means {a : Access} (h : Coherent H (walk io s) (page a.addr) s)
    (hu : Uniform (walk io s) (page a.addr)) (hon : mmuOn s = true) :
    Means (H ∧ a.aligned = true) io s a (access io s a) := by
  cases a with
  | read32 addr =>
    refine (memRead32_means h hu rfl hon).mono fun hq => ?_
    simpa [Access.aligned, Access.addr] using hq.2
  | read8 addr => exact (memRead8_means h hu rfl hon).mono fun _ => trivial
  | write32 addr val =>
    refine (memWrite32_means h rfl hon val).mono fun hq => ⟨hq.1, ?_⟩
    simpa [Access.aligned, Access.addr] using hq.2
  | write8 addr val => exact (memWrite8_means h rfl hon val).mono fun hq => hq.1

/-- If granted, the access is aligned and no abort is pending. -/
def Answerable (io : Devices D) (s : Machine cfg D) (m : Bool) (a : Access) : Prop :=
  Granted io s m a → s.abort = false ∧ a.aligned = true

lemma access_on (hon : mmuOn s = true) (m : Bool) (a : Access) :
    s.guest.access cfg io m a = match walk io s m a.addr a.isWrite with
      | .fatal => none
      | .refused domain code => some (0, s.guest.faulted a.addr domain code)
      | .granted phys _ => some (s.guest.physical cfg io phys a) := by
  have hbare : mmuOn (s.guest.bare cfg) = true := hon
  rw [Guest.access, if_pos hbare]
  rfl

/-- **An access with the MMU on** is the access without caches. -/
theorem access_guest {a : Access} (h : Coherent True (walk io s) (page a.addr) s)
    (hu : Uniform (walk io s) (page a.addr)) (hon : mmuOn s = true) (hq : Quiet io s a.addr)
    (ha : Answerable io s s.memmode a) :
    (access io s a).map onGuest = s.guest.access cfg io s.memmode a := by
  have hmeans := access_means h hu hon
  unfold Means at hmeans
  rw [access_on hon]
  cases hw : walk io s s.memmode a.addr a.isWrite with
  | fatal =>
    simp only [hw] at hmeans
    rw [hmeans]
    rfl
  | refused domain code =>
    simp only [hw] at hmeans
    obtain ⟨t, d, hr, hd, hguest⟩ := hmeans
    rw [hr, Option.map_some, onGuest, hguest, hd.quiet hq]
    rfl
  | granted phys perm =>
    simp only [hw] at hmeans
    obtain ⟨hab, hal⟩ := ha ⟨phys, perm, hw⟩
    obtain ⟨v, t, hr, -, hreach⟩ := hmeans hab
    obtain ⟨d, hd, hphysical⟩ := hreach ⟨trivial, hal⟩
    rw [hr, Option.map_some, onGuest, hphysical, hd.quiet hq]
    rfl

lemma getpccache_on (h : Coherent H (walk io s) (page addr) s) (hon : mmuOn s = true)
    (hq : Quiet io s (frame addr)) :
    (getpccache io s addr).map onGuest = s.guest.fetch cfg io addr := by
  have hpage : page (frame addr) = page addr := by rw [page_eq_iff, frame_frame]
  have hbare : mmuOn (s.guest.bare cfg) = true := hon
  have ht := translateaddress_guest h.toHeld hpage false true
  rw [getpccache_eq, fetchPhys, if_pos hon, Guest.fetch, if_pos hbare]
  have hwalk : walk io (s.guest.bare cfg) s.guest.memmode (frame addr) false =
      walk io s s.memmode (frame addr) false := rfl
  rw [hwalk]
  cases hw : walk io s s.memmode (frame addr) false with
  | fatal =>
    simp only [hw] at ht
    simp only [ht, Option.map_none]
  | refused domain code =>
    simp only [hw, if_true] at ht
    obtain ⟨t, d, ht, hd, hguest⟩ := ht
    rw [hd.quiet hq] at hguest
    have hab : t.abort = true := congrArg Guest.abort hguest
    have hdone : ({ t with abort := false } : Machine cfg D).guest =
        { s.guest with abort := false } :=
      congrArg (fun g : Guest D => { g with abort := false }) hguest
    simp only [ht, Option.map_some, hab, if_true, onGuest, hdone]
  | granted phys perm =>
    simp only [hw] at ht
    obtain ⟨t, d, ht, hd, hafter⟩ := ht
    have hguest : t.guest = s.guest := by
      rw [hafter, hd.quiet hq]
      rfl
    have hab : t.abort = s.guest.abort := congrArg Guest.abort hguest
    cases hpending : s.guest.abort with
    | true =>
      have hdone : ({ t with abort := false } : Machine cfg D).guest =
          { s.guest with abort := false } :=
        congrArg (fun g : Guest D => { g with abort := false }) hguest
      simp only [ht, Option.map_some, hab, hpending, if_true, onGuest, hdone]
    | false =>
      have hclear : t.abort = false := hab.trans hpending
      simp only [ht, Option.map_some, hclear, Bool.false_eq_true, if_false, onGuest]
      refine congrArg (fun g => some (fetchHost cfg phys, g)) ?_
      rw [← hguest, Machine.guest, Machine.guest, hclear]

end On

/-! ## With the MMU off -/

section Off

variable {D : Type} {cfg : Config} {io : Devices D} {s : Machine cfg D}

/-- The caches agree with any walk. -/
def Emptied (s : Machine cfg D) : Prop := ∀ W p, Coherent True W p s

def noWalk : WalkFn := fun _ _ _ => .fatal

lemma not_grants_noWalk {p fr : UInt32} {m : Bool} {rw : IsWrite} {addr : UInt32}
    (hp : page addr = p) : ¬ Grants noWalk p m rw fr := by
  intro h
  obtain ⟨perm, hg⟩ := h.granted hp
  cases hg

lemma Emptied.reads (h : Emptied s) (m : Bool) (addr : UInt32) :
    (s.readMap m).entry (page addr) = none := by
  cases he : (s.readMap m).entry (page addr) with
  | none => rfl
  | some e =>
    obtain ⟨fr, hg, -⟩ := (h noWalk (page addr)).reads m e he
    exact absurd hg (not_grants_noWalk rfl)

lemma Emptied.writes (h : Emptied s) (m : Bool) (addr : UInt32) :
    (s.writeMap m).entry (page addr) = none := by
  cases he : (s.writeMap m).entry (page addr) with
  | none => rfl
  | some e =>
    obtain ⟨fr, hg, -⟩ := (h noWalk (page addr)).writes m e he
    exact absurd hg (not_grants_noWalk rfl)

lemma vradd_off (h : Emptied s) (hoff : mmuOn s = false) (addr q : UInt32) (e : HostPage) :
    vradd s addr e q = s := by
  have hnone : s.tlb.entry (page addr) = none := (h noWalk (page addr)).off hoff
  have hperm : ∀ m, permits (tlbperm s (page addr)) m false = false := by
    intro m
    cases m <;> simp only [tlbperm, hnone] <;> decide
  simp only [vradd, hperm]
  rfl

/-- **An access with the MMU off** is the physical access, and leaves the caches alone. -/
lemma access_off (h : Emptied s) (hoff : mmuOn s = false) (a : Access) :
    access io s a = some ((s.guest.physical cfg io a.addr a).1,
      { s with mem := (s.guest.physical cfg io a.addr a).2.mem,
               dev := (s.guest.physical cfg io a.addr a).2.dev }) := by
  cases a with
  | read32 addr =>
    simp only [access, memRead32, h.reads, readmemfl, hoff]
    cases hhost : readHostOff cfg addr with
    | none => rfl
    | some e =>
      simp only [vradd_off h hoff]
      rfl
  | read8 addr =>
    simp only [access, memRead8, h.reads, readmemfb, hoff]
    rfl
  | write32 addr val =>
    simp only [access, memWrite32, h.writes, writememfl, hoff]
    rfl
  | write8 addr val =>
    simp only [access, memWrite8, h.writes, writememfb, hoff]
    rfl

lemma guest_access_off (hoff : mmuOn s = false) (m : Bool) (a : Access) :
    s.guest.access cfg io m a = some (s.guest.physical cfg io a.addr a) := by
  have hbare : ¬ mmuOn (s.guest.bare cfg) = true := by
    have heq : mmuOn (s.guest.bare cfg) = mmuOn s := rfl
    rw [heq, hoff]
    decide
  rw [Guest.access, if_neg hbare]

lemma physical_guest (s : Machine cfg D) (phys : UInt32) (a : Access) :
    ({ s with mem := (s.guest.physical cfg io phys a).2.mem,
              dev := (s.guest.physical cfg io phys a).2.dev } : Machine cfg D).guest =
      (s.guest.physical cfg io phys a).2 := by
  cases a <;> rfl

lemma access_guest_off (h : Emptied s) (hoff : mmuOn s = false) (m : Bool) (a : Access) :
    (access io s a).map onGuest = s.guest.access cfg io m a := by
  rw [access_off h hoff, guest_access_off hoff, Option.map_some, onGuest, physical_guest]

end Off

/-! ## Runs -/

section Runs

variable {D : Type} {cfg : Config} {io : Devices D} {s t : Machine cfg D} {E : UInt32 → Prop}
  {v : UInt32} {op : Op D}

/-- The caches are coherent for every page but those of `E`, whose descriptors have changed since the
last flush. -/
structure Sound (io : Devices D) (E : UInt32 → Prop) (s : Machine cfg D) : Prop where
  off : mmuOn s = false → Emptied s
  coherent : ∀ p, ¬ E p → OnePermission (tables io s) p → Coherent True (walk io s) p s

/-- The pages whose tables have changed since the flush. -/
def edited (io : Devices D) (E : UInt32 → Prop) (s : Machine cfg D) (op : Op D) (t : Machine cfg D) :
    UInt32 → Prop :=
  fun p => ¬ Flushes s op ∧ (E p ∨ ∃ a, page a = p ∧ tables io t a ≠ tables io s a)

lemma Emptied.sound (h : Emptied s) (E : UInt32 → Prop) : Sound io E s :=
  ⟨fun _ => h, fun p _ _ => h (walk io s) p⟩

lemma Emptied.congr (h : Emptied s) (htlb : t.tlb = s.tlb) (hreads : t.readMap = s.readMap)
    (hwrites : t.writeMap = s.writeMap) (hctrl : t.ctrl = s.ctrl) (hcache : t.memcache = s.memcache)
    (hmode : t.memcacheMemmode = s.memcacheMemmode) : Emptied t :=
  fun W p => (h W p).congr htlb hreads hwrites hctrl hcache hmode

lemma Emptied.step (h : Emptied s) (hoff : mmuOn s = false) (hf : ¬ Flushes s op)
    (hs : step io s op = some (v, t)) : Emptied t := by
  cases op with
  | access a =>
    have hr := hs.symm.trans (access_off h hoff a)
    cases hr
    exact h.congr rfl rfl rfl rfl rfl rfl
  | userAccess a =>
    have huser : Emptied (memSetPrivilege s false) := h.congr rfl rfl rfl rfl rfl rfl
    have hoff' : mmuOn (memSetPrivilege s false) = false := hoff
    simp only [Mmu.step, userAccess, access_off huser hoff', Option.map_some] at hs
    cases hs
    exact h.congr rfl rfl rfl rfl rfl rfl
  | updatemode m =>
    cases hs
    exact h.congr rfl rfl rfl rfl rfl rfl
  | cp15Write opcode val =>
    cases hs
    exact fun W p => (cp15Write_quiet hf).1 (h W p)
  | invalidatePhysical addr =>
    cases hs
    exact fun W p => (h W p).invalidatePhysical addr
  | fetch addr =>
    obtain ⟨⟨r, u⟩, hu, hut⟩ := Option.map_eq_some_iff.mp hs
    cases hut
    rcases getpccache_cases hu with ⟨-, rfl⟩ | ⟨hon, -⟩
    · exact fun W p => (h W p).eraseWrites _
    · rw [hoff] at hon
      cases hon
  | takeAbort =>
    cases hs
    exact h.congr rfl rfl rfl rfl rfl rfl
  | others mem dev =>
    cases hs
    exact h.congr rfl rfl rfl rfl rfl rfl

/-- **One step keeps the caches sound**, if it is not a byte write that enters another page. -/
theorem Sound.step (h : Sound io E s) (hfile : ¬ op.Misfiled io s) (hs : step io s op = some (v, t)) :
    Sound io (edited io E s op t) t := by
  by_cases hf : Flushes s op
  · exact Emptied.sound (fun W p => coherent_of_flushes hf hs) _
  · obtain ⟨hctrl, hdac⟩ := step_quiet hf hs
    have hmmu : mmuOn t = mmuOn s := by
      rw [mmuOn, mmuOn, ctrlMmu, and_eq_of_and_eq hctrl (by decide)]
    refine ⟨fun hoff => ?_, fun p hE hone => ?_⟩
    · rw [hmmu] at hoff
      exact (h.off hoff).step hoff hf hs
    · have hkept : ¬ E p := fun hp => hE ⟨hf, .inl hp⟩
      have htab : ∀ a, page a = p → tables io t a = tables io s a := by
        intro a ha
        by_contra hne
        exact hE ⟨hf, .inr ⟨a, ha, hne⟩⟩
      have hone' : OnePermission (tables io s) p := by
        intro a b ha hb sec d ap phys sec' d' ap' phys' hta htb
        rw [← htab a ha] at hta
        rw [← htab b hb] at htb
        exact hone a b ha hb sec d ap phys sec' d' ap' phys' hta htb
      have hcoh := (h.coherent p hkept hone').unflushed (uniform_of_onePermission hone')
        (fun _ => hfile) hf hs
      exact hcoh.congr_walk fun m a rw ha =>
        walk_congr_at (htab a ha) (and_eq_of_and_eq hctrl (by decide)) hdac m rw

/-! ## Refinement -/

/-- An access that the caches cannot be seen in. -/
def PlainAccess (io : Devices D) (E : UInt32 → Prop) (s : Machine cfg D) (m : Bool) (a : Access) :
    Prop :=
  mmuOn s = true → ¬ E (page a.addr) ∧ OnePermission (tables io s) (page a.addr) ∧
    Quiet io s a.addr ∧ Answerable io s m a

/-- An operation that the caches cannot be seen in. -/
def Plain (io : Devices D) (E : UInt32 → Prop) (s : Machine cfg D) : Op D → Prop
  | .access a => PlainAccess io E s s.memmode a
  | .userAccess a => PlainAccess io E s false a
  | .fetch addr => mmuOn s = true →
      ¬ E (page addr) ∧ OnePermission (tables io s) (page addr) ∧ Quiet io s (frame addr)
  | _ => True

lemma Sound.access (h : Sound io E s) {a : Access} (ha : PlainAccess io E s s.memmode a) :
    (access io s a).map onGuest = s.guest.access cfg io s.memmode a := by
  cases hon : mmuOn s with
  | true =>
    obtain ⟨hE, hone, hq, ha⟩ := ha hon
    exact access_guest (h.coherent _ hE hone) (uniform_of_onePermission hone) hon hq ha
  | false => exact access_guest_off (h.off hon) hon s.memmode a

lemma guest_userAccess (g : Guest D) (m m' : Bool) (a : Access) :
    (({ g with memmode := m } : Guest D).access cfg io m' a).map
      (fun r => (r.1, ({ r.2 with memmode := g.memmode } : Guest D))) = g.access cfg io m' a := by
  have hwalk : walk io (({ g with memmode := m } : Guest D).bare cfg) = walk io (g.bare cfg) := rfl
  have hmmu : mmuOn (({ g with memmode := m } : Guest D).bare cfg) = mmuOn (g.bare cfg) := rfl
  unfold Guest.access
  rw [hwalk, hmmu]
  split
  · cases walk io (g.bare cfg) m' a.addr a.isWrite with
    | fatal => rfl
    | refused domain code => rfl
    | granted phys perm => cases a <;> rfl
  · cases a <;> rfl

lemma Sound.userAccess (h : Sound io E s) {a : Access} (ha : PlainAccess io E s false a) :
    (userAccess io s a).map onGuest = s.guest.access cfg io false a := by
  have hs : Sound io E (memSetPrivilege s false) :=
    ⟨fun hoff => (h.off hoff).congr rfl rfl rfl rfl rfl rfl,
      fun p hE hone => (h.coherent p hE hone).congr rfl rfl rfl rfl rfl rfl⟩
  have hacc : (Mmu.access io (memSetPrivilege s false) a).map onGuest =
      ({ s.guest with memmode := false } : Guest D).access cfg io false a := hs.access ha
  rw [← guest_userAccess s.guest false false a, ← hacc, Option.map_map, Mmu.userAccess,
    Option.map_map]
  rfl

lemma getpccache_off (hoff : mmuOn s = false) (addr : UInt32) :
    (getpccache io s addr).map onGuest = s.guest.fetch cfg io addr := by
  have hbare : ¬ mmuOn (s.guest.bare cfg) = true := by
    have heq : mmuOn (s.guest.bare cfg) = mmuOn s := rfl
    rw [heq, hoff]
    decide
  rw [getpccache_eq, fetchPhys, if_neg (by rw [hoff]; decide), Guest.fetch, if_neg hbare]
  rfl

lemma writeControl_guest (s : Machine cfg D) (val : UInt32) :
    (writeControl s val).guest =
      if val &&& 0x10 = 0 ∧ s.mode &&& 0x10 ≠ 0 then
        { s.guest with ctrl := val, mode := s.mode &&& 0xf,
                       memmode := s.mode &&& 0xf &&& 0xf != 0 }
      else { s.guest with ctrl := val } := by
  have hmode : (if ctrlChanges s val then cp15TlbFlushAll s else s).mode = s.mode := by
    split <;> rfl
  have hguest : (if ctrlChanges s val then cp15TlbFlushAll s else s).guest = s.guest := by
    split <;> rfl
  rw [← hguest, ← hmode]
  simp only [writeControl]
  split_ifs <;> rfl

lemma cp15Write_guest (s : Machine cfg D) (opcode val : UInt32) :
    (cp15Write s opcode val).guest = (cp15Write (s.guest.bare cfg) opcode val).guest := by
  have hdac : (s.guest.bare cfg).domainAccessControl = s.domainAccessControl := rfl
  simp only [cp15Write, hdac]
  split_ifs
  · rw [writeControl_guest, writeControl_guest]
    rfl
  all_goals rfl

/-- **From sound caches an operation does what it does without caches.** -/
theorem answered_guest (h : Sound io E s) (hp : Plain io E s op) :
    (answered io s op).map onGuest = s.guest.step cfg io op := by
  cases op with
  | access a =>
    have hacc := h.access hp
    have hstep : answered io s (.access a) =
        (access io s a).map fun r => ((r.1, none), r.2) := rfl
    rw [hstep, Guest.step, show s.guest.memmode = s.memmode from rfl, ← hacc, Option.map_map,
      Option.map_map]
    rfl
  | userAccess a =>
    have hacc := h.userAccess hp
    have hstep : answered io s (.userAccess a) =
        (userAccess io s a).map fun r => ((r.1, none), r.2) := rfl
    rw [hstep, Guest.step, ← hacc, Option.map_map, Option.map_map]
    rfl
  | updatemode m => rfl
  | cp15Write opcode val =>
    rw [Guest.step, ← cp15Write_guest]
    rfl
  | invalidatePhysical addr => rfl
  | fetch addr =>
    have hfetch : (getpccache io s addr).map onGuest = s.guest.fetch cfg io addr := by
      cases hon : mmuOn s with
      | true =>
        obtain ⟨hE, hone, hq⟩ := hp hon
        exact getpccache_on (h.coherent _ hE hone) hon hq
      | false => exact getpccache_off hon addr
    rw [Guest.step, ← hfetch, answered, Option.map_map, Option.map_map]
    rfl
  | takeAbort => rfl
  | others mem dev => rfl

end Runs

end RpcEmu.Mmu
