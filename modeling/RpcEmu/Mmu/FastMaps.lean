import RpcEmu.Mmu.Cacheless

/-!
# The fast maps do not change what an access means

An access means: walk the page tables, abort if they refuse, otherwise read or write the cell at the
physical address (`Exact`).  Three caches stand in front of that, and along a run whose tables are
not edited between flushes they do not show — with two exceptions.

* **One access.**  `access_exact`: from coherent caches every access is exact, if it is a byte or
  aligned.
* **Whole runs.**  `fastMaps_exact`: the caches stay coherent (`Settled.coherent`) as long as no byte
  write enters the page of the last word write for its own (`Misfiles`).
* **The gap.**  `byteWrite_lands_elsewhere`: two pages of the framestore, a word written to one, two
  bytes to the other, and the second byte is in the first page.
-/

namespace RpcEmu.Mmu

open Bytes Pages

section Exact

variable {D : Type} {cfg : Config}

/-- The value read and the memory after an access are those of the physical access at `phys`; the
value is compared where the address is memory. -/
def Reaches (io : Devices D) (s : Machine cfg D) (phys : UInt32) (v : UInt32) (mem : Memory) :
    Access → Prop
  | .read32 _ => mem = s.mem ∧ ∀ r off, decode cfg (phys &&& physSpaceMask cfg) = .memory r off →
      v = (memPhysRead32 cfg io s.mem s.dev phys).1
  | .read8 _ => mem = s.mem ∧ ∀ r off, decode cfg (phys &&& physSpaceMask cfg) = .memory r off →
      v = (memPhysRead8 cfg io s.mem s.dev phys).1
  | .write32 _ val => mem = (memPhysWrite32 cfg io s.mem s.dev phys val).1
  | .write8 _ val => mem = (memPhysWrite8 cfg io s.mem s.dev phys val).1

/-- What an access comes to: an abort exactly when the walk refuses it; where it grants it, and where
`Q` holds, the cell at the walked address. -/
def ExactIf (Q : Prop) (io : Devices D) (s : Machine cfg D) (m : Bool) (a : Access)
    (r : Option (UInt32 × Machine cfg D)) : Prop :=
  match walk io s m a.addr a.isWrite with
  | .fatal => r = none
  | .refused _ _ => ∃ v t, r = some (v, t) ∧ t.abort = true ∧ t.mem = s.mem
  | .granted phys _ => ∃ v t, r = some (v, t) ∧ t.abort = false ∧ (Q → Reaches io s phys v t.mem a)

/-- **An access means what its walk says**: it aborts exactly when the walk refuses it, and otherwise
reaches the cell at the walked address.  Where the walk stops the emulator, so does the access. -/
def Exact (io : Devices D) (s : Machine cfg D) (m : Bool) (a : Access)
    (r : Option (UInt32 × Machine cfg D)) : Prop :=
  match walk io s m a.addr a.isWrite with
  | .fatal => r = none
  | .refused _ _ => ∃ v t, r = some (v, t) ∧ t.abort = true ∧ t.mem = s.mem
  | .granted phys _ => ∃ v t, r = some (v, t) ∧ t.abort = false ∧ Reaches io s phys v t.mem a

variable {io : Devices D} {H : Prop} {s t : Machine cfg D}

lemma ExactIf.exact {m : Bool} {a : Access} {r : Option (UInt32 × Machine cfg D)}
    (h : ExactIf H io s m a r) (hH : Granted io s m a → H) : Exact io s m a r := by
  unfold ExactIf at h
  unfold Exact
  cases hw : walk io s m a.addr a.isWrite with
  | fatal => simpa only [hw] using h
  | refused domain code => simpa only [hw] using h
  | granted phys perm =>
    simp only [hw] at h
    obtain ⟨v, t, hr, hab, hreach⟩ := h
    exact ⟨v, t, hr, hab, hreach (hH ⟨phys, perm, hw⟩)⟩

lemma reaches_of_physical {a : Access} {phys v : UInt32} {d : D}
    (h : (v, t.guest) = ({ s.guest with dev := d } : Guest D).physical cfg io phys a) :
    Reaches io s phys v t.mem a := by
  have hv := congrArg Prod.fst h
  have hmem : t.mem = _ := congrArg (fun r : UInt32 × Guest D => r.2.mem) h
  cases a with
  | read32 addr =>
    refine ⟨hmem, fun r off hmemory => ?_⟩
    rw [memPhysRead32_memory hmemory d]
    exact hv
  | read8 addr =>
    refine ⟨hmem, fun r off hmemory => ?_⟩
    rw [memPhysRead8_memory hmemory d]
    exact hv
  | write32 addr val =>
    rw [Reaches, memPhysWrite32_memory phys val d]
    exact hmem
  | write8 addr val =>
    rw [Reaches, memPhysWrite8_memory phys val d]
    exact hmem

/-- **One access** from coherent caches, at the current privilege. -/
theorem access_exact {a : Access} (h : Coherent H (walk io s) (page a.addr) s)
    (hu : Uniform (walk io s) (page a.addr)) (hon : mmuOn s = true) (hab : s.abort = false) :
    ExactIf (H ∧ a.aligned = true) io s s.memmode a (access io s a) := by
  have hmeans := access_means h hu hon
  unfold Means at hmeans
  unfold ExactIf
  cases hw : walk io s s.memmode a.addr a.isWrite with
  | fatal => simpa only [hw] using hmeans
  | refused domain code =>
    simp only [hw] at hmeans
    obtain ⟨t, d, hr, -, hguest⟩ := hmeans
    exact ⟨0, t, hr, congrArg Guest.abort hguest, congrArg Guest.mem hguest⟩
  | granted phys perm =>
    simp only [hw] at hmeans
    obtain ⟨v, t, hr, hta, hreach⟩ := hmeans hab
    refine ⟨v, t, hr, hta, fun hq => ?_⟩
    obtain ⟨d, -, hphysical⟩ := hreach hq
    exact reaches_of_physical hphysical

theorem userAccess_exact {a : Access} (h : Coherent H (walk io s) (page a.addr) s)
    (hu : Uniform (walk io s) (page a.addr)) (hon : mmuOn s = true) (hab : s.abort = false) :
    ExactIf (H ∧ a.aligned = true) io s false a (userAccess io s a) := by
  have hs : Coherent H (walk io s) (page a.addr) (memSetPrivilege s false) :=
    h.congr rfl rfl rfl rfl rfl rfl
  have hex := access_exact (s := memSetPrivilege s false) hs hu hon hab
  have hwalk : walk io (memSetPrivilege s false) = walk io s := rfl
  have hmode : (memSetPrivilege s false).memmode = false := rfl
  unfold ExactIf at hex ⊢
  rw [hwalk, hmode] at hex
  unfold userAccess
  cases hw : walk io s false a.addr a.isWrite with
  | fatal =>
    simp only [hw] at hex
    rw [hex]
    rfl
  | refused domain code =>
    simp only [hw] at hex
    obtain ⟨v, t, hr, hta, hmem⟩ := hex
    rw [hr]
    exact ⟨v, _, rfl, hta, hmem⟩
  | granted phys perm =>
    simp only [hw] at hex
    obtain ⟨v, t, hr, hta, hreach⟩ := hex
    rw [hr]
    refine ⟨v, _, rfl, hta, fun hq => ?_⟩
    have h := hreach hq
    cases a <;> exact h

end Exact

/-! ## Runs -/

section Runs

variable {D : Type} {cfg : Config}

/-- Since a flush the tables are the same. -/
inductive Unedited (io : Devices D) : Machine cfg D → Prop
  | flush {s t : Machine cfg D} {op : Op D} {v : UInt32} (hf : Flushes s op)
      (hs : step io s op = some (v, t)) : Unedited io t
  | step {s t : Machine cfg D} {op : Op D} {v : UInt32} (h : Unedited io s)
      (hs : step io s op = some (v, t)) (htab : tables io t = tables io s) : Unedited io t

/-- As `Unedited`, and no byte write has been misfiled. -/
inductive Settled (io : Devices D) : Machine cfg D → Prop
  | flush {s t : Machine cfg D} {op : Op D} {v : UInt32} (hf : Flushes s op)
      (hs : step io s op = some (v, t)) : Settled io t
  | step {s t : Machine cfg D} {op : Op D} {v : UInt32} (h : Settled io s)
      (hs : step io s op = some (v, t)) (htab : tables io t = tables io s)
      (hfile : ¬ op.Misfiled io s) : Settled io t

/-- **The caches are coherent all along**, for every page with one permission. -/
theorem Settled.coherent {io : Devices D} {s : Machine cfg D} (h : Settled io s) {p : UInt32}
    (hone : OnePermission (tables io s) p) : Coherent True (walk io s) p s := by
  induction h with
  | flush hf hs => exact coherent_of_flushes hf hs
  | step _ hs htab hfile ih =>
    have hone' := htab ▸ hone
    exact (ih hone').step (uniform_of_onePermission hone') (fun _ => hfile) hs htab

/-- **Every access of every run means what its walk says**, at either privilege: along runs whose
tables are not edited since the last flush and whose byte writes enter their own page, where the page
has one permission, no earlier abort is pending, and a word the walk grants is aligned. -/
theorem fastMaps_exact (io : Devices D) (s : Machine cfg D) (hs : Settled io s)
    (hon : mmuOn s = true) (hab : s.abort = false) (a : Access)
    (hone : OnePermission (tables io s) (page a.addr)) :
    ((Granted io s s.memmode a → a.aligned = true) →
      Exact io s s.memmode a (access io s a)) ∧
    ((Granted io s false a → a.aligned = true) → Exact io s false a (userAccess io s a)) := by
  have hcoh := hs.coherent hone
  have hu := uniform_of_onePermission hone
  constructor
  · intro hal
    exact (access_exact hcoh hu hon hab).exact fun hg => ⟨trivial, hal hg⟩
  · intro hal
    exact (userAccess_exact hcoh hu hon hab).exact fun hg => ⟨trivial, hal hg⟩

end Runs

/-! ## The gap -/

section Gap

local instance slots_ne_zero : NeZero 8 := ⟨by decide⟩

local instance vramSizes_ne_zero : NeZero 17 := ⟨by decide⟩

lemma tlbcachesize_default_pos : 0 < 256 := by decide

lemma vaddrRingSize_default_pos : 0 < 16384 := by decide

def cardConfig : Config where
  model := .rpcSA110
  cpuModel := .sa110
  ramDoublings := 0
  vramSize := 2
  gfxcardSlot := some 0
  tlbcachesize_pos := tlbcachesize_default_pos
  vaddrRingSize_pos := vaddrRingSize_default_pos

def noDevices : Devices Unit where
  read32 := fun _ _ => (0, ())
  read8 := fun _ _ => (0, ())
  write32 := fun _ _ _ => ()
  write8 := fun _ _ _ => ()

def tablesOn (mem : Memory) : Machine cardConfig Unit :=
  { resetState mem () with
    ctrl := 0x71, translationTable := 0x10000000, domainAccessControl := 1,
    tlbram := some (.ram00, 0x7ffff) }

def tablesSet (mem : Memory) : Machine cardConfig Unit :=
  cp15Write (cp15Write (resetState mem ()) 0x20000 0x10000000) 0x30000 1

lemma flushAll_of_empty {s : Machine cardConfig Unit} (htlb : s.tlb = .empty)
    (hreads : s.readMap = fun _ => .empty) (hwrites : s.writeMap = fun _ => .empty)
    (hcache : s.memcache = fun _ => ⟨none, 0⟩) (hmode : s.memcacheMemmode = none) :
    cp15TlbFlushAll s = s := by
  cases s
  simp_all [cp15TlbFlushAll, clearmemcache]

lemma tablesSet_eq (mem : Memory) : tablesSet mem = { tablesOn mem with ctrl := 0x70 } := by
  have h1 : cp15Write (resetState mem () : Machine cardConfig Unit) 0x20000 0x10000000 =
      { tablesOn mem with ctrl := 0x70, domainAccessControl := 0 } :=
    flushAll_of_empty rfl rfl rfl rfl rfl
  rw [tablesSet, h1]
  exact flushAll_of_empty (s := { tablesOn mem with ctrl := 0x70 }) rfl rfl rfl rfl rfl

lemma tablesOn_mmuOn (mem : Memory) : mmuOn (tablesOn mem) = true := by
  simp only [mmuOn, tablesOn]
  decide

lemma tablesOn_changes (mem : Memory) :
    ctrlChanges { tablesOn mem with ctrl := 0x70 } 0x71 = true := by
  simp only [ctrlChanges]
  decide

lemma tablesOn_reached (mem : Memory) : cp15Write (tablesSet mem) 0x10000 0x71 = tablesOn mem := by
  have hflush := flushAll_of_empty (s := { tablesOn mem with ctrl := 0x70 }) rfl rfl rfl rfl rfl
  rw [tablesSet_eq, cp15Write]
  simp only [writeControl, tablesOn_changes, if_true, hflush]
  rfl

lemma tablesOn_flushes (mem : Memory) : Flushes (tablesSet mem) (.cp15Write 0x10000 0x71) := by
  rw [tablesSet_eq]
  exact .inl ⟨by decide, tablesOn_changes mem⟩

/-- A first-level table, all over SIMM 0, that maps every section to the framestore's first
megabyte: descriptor `0x08100c02`, Domain 0, any access permitted. -/
def framestoreTable : Memory := fun r => if r = .ram00 then Block.fill 0x08100c02 else fun _ => 0

def framestoreOn : Machine cardConfig Unit := tablesOn framestoreTable

lemma framestoreTable_tables {s : Machine cardConfig Unit} (hmem : s.mem .ram00 = framestoreTable .ram00)
    (htlb : s.tlbram = some (.ram00, 0x7ffff)) (addr : UInt32) :
    tables noDevices s addr = .page true 0 3 (0x08100000 ||| (addr &&& 0xfffff)) := by
  have hword : ∀ i : UInt32, (framestoreTable .ram00).word (i * 4) = 0x08100c02 :=
    fun i => Block.word_fill _ (mul_four_and_three i)
  simp only [tables, descend, firstLevel, htlb, Option.map_some, hmem, hword]
  rfl

def wordDrawn : Machine cardConfig Unit :=
  ((access noDevices framestoreOn (.write32 0 0x11223344)).getD (0, framestoreOn)).2

def byteDrawn : Machine cardConfig Unit :=
  ((access noDevices wordDrawn (.write8 0x1000 5)).getD (0, wordDrawn)).2

lemma framestoreTable_unedited {s t : Machine cardConfig Unit}
    (hs : s.mem .ram00 = framestoreTable .ram00) (hst : s.tlbram = some (.ram00, 0x7ffff))
    (ht : t.mem .ram00 = framestoreTable .ram00) (htt : t.tlbram = some (.ram00, 0x7ffff)) :
    tables noDevices t = tables noDevices s := by
  funext addr
  rw [framestoreTable_tables hs hst, framestoreTable_tables ht htt]

lemma framestoreTable_onePermission {s : Machine cardConfig Unit}
    (hs : s.mem .ram00 = framestoreTable .ram00) (hst : s.tlbram = some (.ram00, 0x7ffff))
    (p : UInt32) : OnePermission (tables noDevices s) p := by
  intro a b _ _ sec d ap phys sec' d' ap' phys' ha hb
  rw [framestoreTable_tables hs hst, Descent.page.injEq] at ha hb
  rw [← ha.2.2.1, ← hb.2.2.1]

theorem fastMaps_exact_framestore :
    Exact noDevices wordDrawn true (.read32 0) (access noDevices wordDrawn (.read32 0)) ∧
      Exact noDevices wordDrawn false (.read32 0) (userAccess noDevices wordDrawn (.read32 0)) := by
  have hs : Settled noDevices wordDrawn :=
    .step (.flush (tablesOn_flushes _) (congrArg (fun s => some (0, s)) (tablesOn_reached _)))
      (show step noDevices framestoreOn (.access (.write32 0 0x11223344)) = some (0, wordDrawn)
        from rfl) (framestoreTable_unedited rfl rfl rfl rfl) id
  have h := fastMaps_exact noDevices wordDrawn hs rfl rfl (.read32 0)
    (framestoreTable_onePermission rfl rfl _)
  exact ⟨h.1 fun _ => rfl, h.2 fun _ => rfl⟩

lemma byteDrawn_misplaces :
    (access noDevices byteDrawn (.write8 0x1001 7)).map
      (fun r => (r.2.mem .fb 0x1001, r.2.mem .fb 0x0001)) = some (0, 7) := by
  decide +kernel

/-- **Not every access means what its walk says**: after a word in one page of the framestore and a
byte in another, the next byte of that page lands in the first. -/
theorem byteWrite_lands_elsewhere :
    ¬ ∀ s : Machine cardConfig Unit, Unedited noDevices s → mmuOn s = true → s.abort = false →
      (∀ p, OnePermission (tables noDevices s) p) → ∀ a : Access, a.aligned = true →
        Exact noDevices s s.memmode a (access noDevices s a) := by
  intro hall
  have h0 : Unedited noDevices framestoreOn :=
    .flush (tablesOn_flushes _) (congrArg (fun s => some (0, s)) (tablesOn_reached _))
  have h1 : Unedited noDevices wordDrawn :=
    .step h0 (show step noDevices framestoreOn (.access (.write32 0 0x11223344)) =
      some (0, wordDrawn) from rfl) (framestoreTable_unedited rfl rfl rfl rfl)
  have h2 : Unedited noDevices byteDrawn :=
    .step h1 (show step noDevices wordDrawn (.access (.write8 0x1000 5)) = some (0, byteDrawn)
      from rfl) (framestoreTable_unedited rfl rfl rfl rfl)
  have hex := hall byteDrawn h2 rfl rfl (framestoreTable_onePermission rfl rfl) (.write8 0x1001 7) rfl
  have hwalk : walk noDevices byteDrawn byteDrawn.memmode (Access.write8 0x1001 7).addr
      (Access.write8 0x1001 7).isWrite = .granted 0x08101001 0xf := by decide +kernel
  rw [Exact, hwalk] at hex
  obtain ⟨v, t, hr, -, hmem⟩ := hex
  have hplace := byteDrawn_misplaces
  rw [hr, Option.map_some, Option.some.injEq, Prod.mk.injEq, show t.mem = _ from hmem] at hplace
  have hown : (memPhysWrite8 cardConfig noDevices byteDrawn.mem byteDrawn.dev 0x08101001 7).1
      .fb 0x1001 = 7 := by decide +kernel
  rw [hown] at hplace
  exact absurd hplace.1 (by decide)

end Gap

end RpcEmu.Mmu
