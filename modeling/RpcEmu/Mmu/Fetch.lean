import RpcEmu.Mmu.Exec
import RpcEmu.Mmu.FastMaps

/-!
# Which pages instructions are fetched from

The fetch asks for permission when the PC enters a page, and not again until it leaves it.  Whether
every opcode that is executed was readable then depends on what happens in between.

* **Readable**: the walk permits a read at the PC, at the privilege of the mode.
* `executed_readable`: every opcode executed is readable, in runs in which a step that flushes the TLB
  or goes from a privileged mode to User does not stay in an unreadable page.
-/

namespace RpcEmu.Mmu

open Bytes Pages

section Runs

variable {D : Type} {cfg : Config}

/-- The fetch's page can be read. -/
def Readable (io : Devices D) (a : Arm cfg D) : Prop :=
  ∃ phys perm, walk io a.mmu (armModePriv a.mode) a.pc false = .granted phys perm

/-- The states the interpreter can be in: from reset, by passes of the loop, with devices at work in
between. -/
inductive Reached (io : Devices D) : Arm cfg D → Prop
  | reset (mem : Memory) (dev : D) : Reached io (armReset mem dev)
  | exec {a b : Arm cfg D} {body : Body D} {irq fiq : Bool} {f : Fetched} (ha : Reached io a)
      (hs : armExec io a body irq fiq = some (f, b)) : Reached io b
  | devices {a : Arm cfg D} (ha : Reached io a) (mem : Memory) (dev : D) :
      Reached io { a with mmu := { a.mmu with mem := mem, dev := dev } }
  | invalidate {a : Arm cfg D} (ha : Reached io a) (addr : UInt32) :
      Reached io { a with mmu := cp15TlbInvalidatePhysical a.mmu addr }

/-- The instruction is a CP15 write that flushes. -/
def Body.Flushes (a : Arm cfg D) : Body D → Prop
  | .mcr opcode val => armModePriv a.mode = true ∧ Mmu.Flushes a.mmu (.cp15Write opcode val)
  | .effects _ => False

/-- No effect changes the tables. -/
def KeepsTables (io : Devices D) : List (Effect D) → Arm cfg D → Prop
  | [], _ => True
  | e :: l, a => ∀ b, effect io a e = some b → tables io b.mmu = tables io a.mmu ∧ KeepsTables io l b

/-- The pass from `a` to `b` leaves the page tables as they are, all the way. -/
def PassKeepsTables (io : Devices D) (a b : Arm cfg D) (body : Body D) : Prop :=
  tables io b.mmu = tables io a.mmu ∧ ∀ f t, fetch io a = some (f, t) →
    tables io t.mmu = tables io a.mmu ∧ ∀ l, body = .effects l → KeepsTables io l t

/-- **Runs with the page tables unedited since the last flush**, in which every state after a flush,
and every state a step to User leaves, satisfies `Ok`. -/
inductive FetchRun (io : Devices D) (Ok : Arm cfg D → Prop) : Arm cfg D → Prop
  | flush {a b : Arm cfg D} {opcode val w : UInt32} {irq fiq : Bool} (ha : Reached io a)
      (hf : (Body.mcr opcode val).Flushes a)
      (hs : armExec io a (.mcr opcode val) irq fiq = some (.executed w, b)) (hok : Ok b) :
      FetchRun io Ok b
  | exec {a b : Arm cfg D} {body : Body D} {irq fiq : Bool} {f : Fetched} (ha : FetchRun io Ok a)
      (hf : ¬ body.Flushes a) (hs : armExec io a body irq fiq = some (f, b))
      (hkeep : PassKeepsTables io a b body)
      (hok : armModePriv a.mode = true → armModePriv b.mode = false → Ok b) : FetchRun io Ok b
  | devices {a : Arm cfg D} (ha : FetchRun io Ok a) (mem : Memory) (dev : D)
      (htab : tables io { a.mmu with mem := mem, dev := dev } = tables io a.mmu) :
      FetchRun io Ok { a with mmu := { a.mmu with mem := mem, dev := dev } }
  | invalidate {a : Arm cfg D} (ha : FetchRun io Ok a) (addr : UInt32) :
      FetchRun io Ok { a with mmu := cp15TlbInvalidatePhysical a.mmu addr }

/-- The page fetched from last can still be read. -/
def StillReadable (io : Devices D) (a : Arm cfg D) : Prop :=
  mmuOn a.mmu = true → a.mmu.pccache = some (page a.pc) → Readable io a

end Runs

section Steps

variable {D : Type} {cfg : Config} {io : Devices D} {s t u : Machine cfg D} {a b : Arm cfg D}
  {p v : UInt32}

/-! ## Privilege and mode -/

/-- The memory's privilege is the mode's. -/
def Privilege (s : Machine cfg D) : Prop := s.memmode = armModePriv s.mode

lemma privilege_updatemode (s : Machine cfg D) (m : UInt32) : Privilege (updatemode s m) := rfl

lemma Privilege.congr (h : Privilege s) (hsame : SameRegs s t) : Privilege t := by
  rw [Privilege, hsame.memmode, hsame.mode, h]

lemma Privilege.cp15Write (h : Privilege s) (opcode val : UInt32) :
    Privilege (cp15Write s opcode val) := by
  have hcontrol : Privilege (writeControl s val) := by
    rcases writeControl_cases s val with heq | ⟨m, heq⟩
    · rw [heq]
      split <;> exact h
    · rw [heq]
      rfl
  simp only [Mmu.cp15Write]
  split_ifs
  · exact hcontrol
  all_goals exact h

lemma exception_mmu (a : Arm cfg D) (mmode address diff : UInt32) :
    ∃ m, (exception a mmode address diff).mmu = updatemode a.mmu m := by
  simp only [exception]
  split
  · exact ⟨_, rfl⟩
  · split
    · exact ⟨_, rfl⟩
    · exact ⟨_, rfl⟩

lemma psrWrite_mmu {t : Arm cfg D} (ht : t.mmu = a.mmu) (c : Prop) [Decidable c] (m : UInt32) :
    (if c then updatemodeAt t m else t).mmu = a.mmu ∨
      ∃ m', (if c then updatemodeAt t m else t).mmu = updatemode a.mmu m' := by
  split
  · exact .inr ⟨m, congrArg (updatemode · m) ht⟩
  · exact .inl ht

lemma armWriteR15_mmu (a : Arm cfg D) (dest : UInt32) :
    (armWriteR15 a dest).mmu = a.mmu ∨ ∃ m, (armWriteR15 a dest).mmu = updatemode a.mmu m := by
  simp only [armWriteR15]
  split
  · refine psrWrite_mmu ?_ _ _
    split <;> rfl
  · exact .inl rfl

lemma armCompareRd15_mmu (a : Arm cfg D) (dest : UInt32) :
    (armCompareRd15 a dest).mmu = a.mmu ∨ ∃ m, (armCompareRd15 a dest).mmu = updatemode a.mmu m := by
  simp only [armCompareRd15]
  refine psrWrite_mmu ?_ _ _
  split_ifs <;> rfl

lemma armWriteCpsr_mmu (a : Arm cfg D) (opcode value : UInt32) :
    (armWriteCpsr a opcode value).mmu = a.mmu ∨
      ∃ m, (armWriteCpsr a opcode value).mmu = updatemode a.mmu m := by
  simp only [armWriteCpsr]
  refine psrWrite_mmu ?_ _ _
  split_ifs <;> rfl

lemma effect_mmu {e : Effect D} (h : effect io a e = some b) :
    b.mmu = a.mmu ∨ (∃ m, b.mmu = updatemode a.mmu m) ∨
    (∃ x v, access io a.mmu x = some (v, b.mmu)) ∨ (∃ x v, userAccess io a.mmu x = some (v, b.mmu)) ∨
    ∃ mem dev, b.mmu = { a.mmu with mem := mem, dev := dev } := by
  cases e with
  | access x =>
    obtain ⟨⟨v, u⟩, hu, rfl⟩ := Option.map_eq_some_iff.mp h
    exact .inr (.inr (.inl ⟨x, v, hu⟩))
  | userAccess x =>
    obtain ⟨⟨v, u⟩, hu, rfl⟩ := Option.map_eq_some_iff.mp h
    exact .inr (.inr (.inr (.inl ⟨x, v, hu⟩)))
  | setR15 value =>
    cases h
    exact .inl rfl
  | setFlags value =>
    cases h
    left
    split <;> rfl
  | writeR15 dest =>
    cases h
    exact (armWriteR15_mmu a dest).imp id .inl
  | compareRd15 dest =>
    cases h
    exact (armCompareRd15_mmu a dest).imp id .inl
  | writeCpsr opcode value =>
    cases h
    exact (armWriteCpsr_mmu a opcode value).imp id .inl
  | writeSpsr opcode value =>
    cases h
    left
    simp only [armWriteSpsr]
    split <;> rfl
  | exception mmode address diff =>
    cases h
    exact .inr (.inl (exception_mmu a mmode address diff))
  | others mem dev =>
    cases h
    exact .inr (.inr (.inr (.inr ⟨mem, dev, rfl⟩)))

/-! ## What a step that does not flush keeps -/

/-- **A step that does not flush**, with the tables as they were: the walk is the same and the caches
stay coherent with it. -/
structure Steady (io : Devices D) (s t : Machine cfg D) : Prop where
  coherent : ∀ p, Uniform (walk io s) p → Coherent False (walk io s) p s →
    Coherent False (walk io t) p t
  walk : walk io t = walk io s
  mmuOn : mmuOn t = mmuOn s

structure Follows (io : Devices D) (s t : Machine cfg D) : Prop extends Steady io s t where
  pccache : t.pccache = s.pccache ∨ t.pccache = none

lemma Steady.refl (s : Machine cfg D) : Steady io s s := ⟨fun _ _ h => h, rfl, rfl⟩

lemma Follows.refl (s : Machine cfg D) : Follows io s s := ⟨.refl s, .inl rfl⟩

lemma Steady.trans (h : Steady io s t) (h' : Steady io t u) : Steady io s u where
  coherent := fun p hu hc => h'.coherent p (h.walk ▸ hu) (h.coherent p hu hc)
  walk := h'.walk.trans h.walk
  mmuOn := h'.mmuOn.trans h.mmuOn

lemma Follows.trans (h : Follows io s t) (h' : Follows io t u) : Follows io s u where
  toSteady := h.toSteady.trans h'.toSteady
  pccache := by
    rcases h'.pccache with heq | hnone
    · rw [heq]
      exact h.pccache
    · exact .inr hnone

lemma Steady.of_caches (hcoh : ∀ W p, Coherent False W p s → Coherent False W p t)
    (hwalk : Mmu.walk io t = Mmu.walk io s) (hon : Mmu.mmuOn t = Mmu.mmuOn s) :
    Steady io s t where
  coherent := by
    intro p _ h
    rw [hwalk]
    exact hcoh _ p h
  walk := hwalk
  mmuOn := hon

lemma follows_updatemode (io : Devices D) (s : Machine cfg D) (m : UInt32) :
    Follows io s (updatemode s m) where
  toSteady := .of_caches (fun _ _ h => h.congr rfl rfl rfl rfl rfl rfl) rfl rfl
  pccache := .inl rfl

lemma follows_takeAbort (io : Devices D) (s : Machine cfg D) :
    Follows io s { s with abort := false } where
  toSteady := .of_caches (fun _ _ h => h.congr rfl rfl rfl rfl rfl rfl) rfl rfl
  pccache := .inl rfl

lemma follows_invalidate (io : Devices D) (s : Machine cfg D) (addr : UInt32) :
    Follows io s (cp15TlbInvalidatePhysical s addr) where
  toSteady := .of_caches (fun _ _ h => h.invalidatePhysical addr) rfl rfl
  pccache := .inl rfl

lemma follows_of_same {op : Op D} (hs : step io s op = some (v, t)) (hsame : SameRegs s t)
    (htab : tables io t = tables io s) : Follows io s t where
  coherent := fun p hu h => h.step hu False.elim hs htab
  walk := walk_congr htab (by rw [hsame.ctrl]) hsame.domainAccessControl
  mmuOn := by rw [mmuOn, mmuOn, hsame.ctrl]
  pccache := .inl hsame.pccache

lemma follows_others {mem : Memory} {dev : D}
    (htab : tables io { s with mem := mem, dev := dev } = tables io s) :
    Follows io s { s with mem := mem, dev := dev } := by
  have hstep : step io s (.others mem dev) = some (0, { s with mem := mem, dev := dev }) := rfl
  exact follows_of_same hstep ⟨rfl, rfl, rfl, rfl, rfl⟩ htab

lemma follows_effect {e : Effect D} (h : effect io a e = some b)
    (htab : tables io b.mmu = tables io a.mmu) : Follows io a.mmu b.mmu := by
  rcases effect_mmu h with heq | ⟨m, heq⟩ | ⟨x, v, hx⟩ | ⟨x, v, hx⟩ | ⟨mem, dev, heq⟩
  · rw [heq]
    exact .refl _
  · rw [heq]
    exact follows_updatemode io _ m
  · have hstep : step io a.mmu (.access x) = some (v, b.mmu) := hx
    exact follows_of_same hstep (access_same hx) htab
  · have hstep : step io a.mmu (.userAccess x) = some (v, b.mmu) := hx
    exact follows_of_same hstep (userAccess_same hx) htab
  · rw [heq] at htab ⊢
    exact follows_others htab

lemma follows_effects {l : List (Effect D)} (h : l.foldlM (effect io) a = some b)
    (hkeep : KeepsTables io l a) : Follows io a.mmu b.mmu := by
  induction l generalizing a with
  | nil =>
    cases h
    exact .refl _
  | cons e l ih =>
    obtain ⟨c, hc, hl⟩ := Option.bind_eq_some_iff.mp h
    obtain ⟨htab, hkeep'⟩ := hkeep c hc
    exact (follows_effect hc htab).trans (ih hl hkeep')

lemma cp15Write_pccache (s : Machine cfg D) (opcode val : UInt32) :
    (cp15Write s opcode val).pccache = s.pccache ∨ (cp15Write s opcode val).pccache = none := by
  have hcontrol : (writeControl s val).pccache = s.pccache := by
    rcases writeControl_cases s val with heq | ⟨m, heq⟩ <;> rw [heq] <;> split <;> rfl
  simp only [cp15Write]
  split_ifs <;> first | exact .inl hcontrol | exact .inl rfl | exact .inr rfl

lemma mcr_mmu {opcode val : UInt32} (h : armModePriv a.mode = true) :
    (mcr a opcode val).mmu = cp15Write a.mmu opcode val := by
  simp only [mcr, h, if_true]
  split <;> rfl

lemma follows_mcr {opcode val : UInt32} (hf : ¬ (Body.mcr opcode val).Flushes a)
    (htab : tables io (mcr a opcode val).mmu = tables io a.mmu) :
    Follows io a.mmu (mcr a opcode val).mmu := by
  by_cases hpriv : armModePriv a.mode = true
  · rw [mcr_mmu hpriv] at htab ⊢
    have hquiet : ¬ Mmu.Flushes a.mmu (.cp15Write opcode val) := fun h => hf ⟨hpriv, h⟩
    have hregs := cp15Write_quiet (H := False) (p := 0) hquiet
    have hstep : step io a.mmu (.cp15Write opcode val) = some (0, cp15Write a.mmu opcode val) := rfl
    refine ⟨⟨fun p hu h => h.step hu False.elim hstep htab,
      walk_congr htab (and_eq_of_and_eq hregs.2.1 (by decide)) hregs.2.2, ?_⟩,
      cp15Write_pccache _ _ _⟩
    have hmmu : (cp15Write a.mmu opcode val).ctrl &&& ctrlMmu = a.mmu.ctrl &&& ctrlMmu :=
      and_eq_of_and_eq hregs.2.1 (by decide)
    rw [mmuOn, mmuOn, hmmu]
  · have hmcr : mcr a opcode val = exception a undefinedMode 8 4 := if_neg hpriv
    obtain ⟨m, hm⟩ := exception_mmu a undefinedMode 8 4
    rw [hmcr, hm]
    exact follows_updatemode io _ m

lemma copyInterruptFlags_mmu (a : Arm cfg D) : (copyInterruptFlags a).mmu = a.mmu := by
  unfold copyInterruptFlags
  split <;> rfl

lemma takeEvent_mmu (a : Arm cfg D) (irq fiq : Bool) :
    (takeEvent a irq fiq).mmu = a.mmu ∨ (∃ m, (takeEvent a irq fiq).mmu = updatemode a.mmu m) ∨
    ∃ m, (takeEvent a irq fiq).mmu = { updatemode a.mmu m with abort := false } := by
  have hexception : ∀ mmode address diff,
      ∃ m, (exception (copyInterruptFlags a) mmode address diff).mmu = updatemode a.mmu m := by
    intro mmode address diff
    obtain ⟨m, hm⟩ := exception_mmu (copyInterruptFlags a) mmode address diff
    rw [copyInterruptFlags_mmu] at hm
    exact ⟨m, hm⟩
  simp only [takeEvent]
  split
  · split
    · obtain ⟨m, hm⟩ := hexception abortMode 0x14 0
      exact .inr (.inr ⟨m, by rw [hm]⟩)
    · split
      · exact .inr (.inl (hexception fiqMode 0x20 0))
      · split
        · exact .inr (.inl (hexception irqMode 0x1c 0))
        · exact .inl (copyInterruptFlags_mmu a)
  · exact .inl rfl

lemma follows_takeEvent (io : Devices D) (a : Arm cfg D) (irq fiq : Bool) :
    Follows io a.mmu (takeEvent a irq fiq).mmu := by
  rcases takeEvent_mmu a irq fiq with heq | ⟨m, heq⟩ | ⟨m, heq⟩
  · rw [heq]
    exact .refl _
  · rw [heq]
    exact follows_updatemode io _ m
  · rw [heq]
    exact (follows_updatemode io _ m).trans (follows_takeAbort io _)

lemma tables_takeEvent (io : Devices D) (a : Arm cfg D) (irq fiq : Bool) :
    tables io (takeEvent a irq fiq).mmu = tables io a.mmu := by
  rcases takeEvent_mmu a irq fiq with heq | ⟨m, heq⟩ | ⟨m, heq⟩ <;> rw [heq] <;> rfl

/-! ## The fetch -/

lemma fetch_cases {f : Fetched} (h : fetch io a = some (f, b)) :
    (a.mmu.pccache = some (page a.pc) ∧ (∃ w, f = .executed w) ∧ b = a) ∨
    (∃ t r, a.mmu.pccache ≠ some (page a.pc) ∧
      getpccache io { a.mmu with pccache := some (page a.pc) } a.pc = some (r, t) ∧
      ((r = none ∧ f = .prefetchAbort ∧ b = { a with mmu := { t with pccache := none } }) ∨
        (∃ e w, r = some e ∧ f = .executed w ∧ b = { a with mmu := t, pccache2 := e }))) := by
  simp only [fetch] at h
  split at h
  · rename_i hpage
    cases h
    exact .inl ⟨hpage, ⟨_, rfl⟩, rfl⟩
  · rename_i hpage
    split at h
    · cases h
    · rename_i t ht
      cases h
      exact .inr ⟨t, none, hpage, ht, .inl ⟨rfl, rfl, rfl⟩⟩
    · rename_i e t ht
      cases h
      exact .inr ⟨t, some e, hpage, ht, .inr ⟨e, _, rfl, rfl, rfl⟩⟩

lemma fetch_same {f : Fetched} (h : fetch io a = some (f, b)) :
    b.pc = a.pc ∧ b.mode = a.mode ∧ b.mmu.ctrl = a.mmu.ctrl ∧
      b.mmu.domainAccessControl = a.mmu.domainAccessControl ∧ b.mmu.memmode = a.mmu.memmode := by
  rcases fetch_cases h with ⟨-, -, rfl⟩ | ⟨t, r, -, ht, ⟨-, -, rfl⟩ | ⟨e, w, -, -, rfl⟩⟩
  · exact ⟨rfl, rfl, rfl, rfl, rfl⟩
  · have hsame := getpccache_same ht
    refine ⟨?_, hsame.mode, hsame.ctrl, hsame.domainAccessControl, hsame.memmode⟩
    simp only [Arm.pc, Arm.mode, hsame.mode]
  · have hsame := getpccache_same ht
    refine ⟨?_, hsame.mode, hsame.ctrl, hsame.domainAccessControl, hsame.memmode⟩
    simp only [Arm.pc, Arm.mode, hsame.mode]

lemma fetch_pccache {f : Fetched} (h : fetch io a = some (f, b)) :
    (f = .prefetchAbort ∧ b.mmu.pccache = none) ∨
      ((∃ w, f = .executed w) ∧ b.mmu.pccache = some (page a.pc)) := by
  rcases fetch_cases h with ⟨hp, hw, rfl⟩ | ⟨t, r, -, ht, ⟨-, hf, rfl⟩ | ⟨e, w, -, hf, rfl⟩⟩
  · exact .inr ⟨hw, hp⟩
  · exact .inl ⟨hf, rfl⟩
  · exact .inr ⟨⟨w, hf⟩, (getpccache_same ht).pccache⟩

lemma fetch_steady {f : Fetched} (h : fetch io a = some (f, b))
    (htab : tables io b.mmu = tables io a.mmu) : Steady io a.mmu b.mmu := by
  obtain ⟨-, -, hctrl, hdac, -⟩ := fetch_same h
  have hwalk : walk io b.mmu = walk io a.mmu := walk_congr htab (by rw [hctrl]) hdac
  refine ⟨fun p hu hc => ?_, hwalk, by rw [mmuOn, mmuOn, hctrl]⟩
  rw [hwalk]
  have hstart : Coherent False (walk io a.mmu) p { a.mmu with pccache := some (page a.pc) } :=
    hc.congr rfl rfl rfl rfl rfl rfl
  rcases fetch_cases h with ⟨-, -, rfl⟩ | ⟨t, r, -, ht, ⟨-, -, rfl⟩ | ⟨e, w, -, -, rfl⟩⟩
  · exact hc
  · exact (getpccache_kept hstart rfl (fun _ => hu) ht).congr rfl rfl rfl rfl rfl rfl
  · exact getpccache_kept hstart rfl (fun _ => hu) ht

/-- **The opcode of a pass is readable**, if the page fetched from last was where the PC is still in
it. -/
lemma readable_of_fetch {w : UInt32} (h : fetch io a = some (.executed w, b))
    (hon : mmuOn a.mmu = true) (hpriv : Privilege a.mmu) (hu : Uniform (walk io a.mmu) (page a.pc))
    (hcoh : Coherent False (walk io a.mmu) (page a.pc) a.mmu) (hstill : StillReadable io a) :
    Readable io a := by
  rcases fetch_cases h with ⟨hp, -, -⟩ | ⟨t, r, -, ht, ⟨-, hf, -⟩ | ⟨e, w', hr, -, -⟩⟩
  · exact hstill hon hp
  · cases hf
  · subst hr
    have hpage : page (frame a.pc) = page a.pc := by rw [page_eq_iff, frame_frame]
    have hgrant : ∃ phys perm, walk io a.mmu a.mmu.memmode (frame a.pc) false = .granted phys perm := by
      rcases getpccache_cases ht with ⟨hoff, -⟩ | ⟨-, phys, u, htr, ⟨-, hr, -⟩ | ⟨hab, -⟩⟩
      · have hon' : mmuOn { a.mmu with pccache := some (page a.pc) } = true := hon
        rw [hon'] at hoff
        cases hoff
      · cases hr
      · rcases translateaddress_cases htr with ⟨x, hx, hperm, -, -⟩ | ⟨perm, hw, -⟩ |
          ⟨_, _, _, _, -, -, hu'⟩
        · rw [hpage] at hx
          obtain ⟨perm, hw⟩ := (hcoh.tlb x hx _ _ hperm).granted hpage
          exact ⟨_, perm, hw⟩
        · exact ⟨phys, perm, hw⟩
        · rw [hu'] at hab
          cases hab
    obtain ⟨phys, perm, hw⟩ := hgrant
    have hm : a.mmu.memmode = armModePriv a.mode := hpriv
    rw [hm] at hw
    exact ⟨_, perm, hu.page_granted hpage rfl hw⟩

/-! ## A pass -/

lemma armExec_cases {body : Body D} {irq fiq : Bool} {f : Fetched}
    (h : armExec io a body irq fiq = some (f, b)) :
    (f = .prefetchAbort ∧ ∃ t, fetch io a = some (.prefetchAbort, t) ∧
      b = nextPc (exception t abortMode 0x10 4)) ∨
    (∃ w t u, f = .executed w ∧ fetch io a = some (.executed w, t) ∧ runBody io t body = some u ∧
      b = nextPc (takeEvent u irq fiq)) := by
  simp only [armExec] at h
  split at h
  · cases h
  · rename_i t ht
    cases h
    exact .inl ⟨rfl, t, ht, rfl⟩
  · rename_i w t ht
    obtain ⟨u, hu, hb⟩ := Option.map_eq_some_iff.mp h
    cases hb
    exact .inr ⟨w, t, u, rfl, ht, hu, rfl⟩

lemma Privilege.effect {e : Effect D} (hp : Privilege a.mmu) (h : effect io a e = some b) :
    Privilege b.mmu := by
  rcases effect_mmu h with heq | ⟨m, heq⟩ | ⟨x, v, hx⟩ | ⟨x, v, hx⟩ | ⟨mem, dev, heq⟩
  · rwa [heq]
  · rw [heq]
    exact privilege_updatemode _ m
  · exact hp.congr (access_same hx)
  · exact hp.congr (userAccess_same hx)
  · rw [heq]
    exact hp

lemma Privilege.effects {l : List (Effect D)} (hp : Privilege a.mmu)
    (h : l.foldlM (Mmu.effect io) a = some b) : Privilege b.mmu := by
  induction l generalizing a with
  | nil =>
    cases h
    exact hp
  | cons e l ih =>
    obtain ⟨c, hc, hl⟩ := Option.bind_eq_some_iff.mp h
    exact ih (hp.effect hc) hl

lemma privilege_exception (a : Arm cfg D) (mmode address diff : UInt32) :
    Privilege (exception a mmode address diff).mmu := by
  obtain ⟨m, hm⟩ := exception_mmu a mmode address diff
  rw [hm]
  exact privilege_updatemode _ m

lemma Privilege.runBody {body : Body D} (hp : Privilege a.mmu) (h : runBody io a body = some b) :
    Privilege b.mmu := by
  cases body with
  | mcr opcode val =>
    cases h
    by_cases hpriv : armModePriv a.mode = true
    · rw [mcr_mmu hpriv]
      exact hp.cp15Write opcode val
    · rw [mcr, if_neg hpriv]
      exact privilege_exception _ _ _ _
  | effects l => exact hp.effects h

lemma Privilege.takeEvent (hp : Privilege a.mmu) (irq fiq : Bool) :
    Privilege (takeEvent a irq fiq).mmu := by
  rcases takeEvent_mmu a irq fiq with heq | ⟨m, heq⟩ | ⟨m, heq⟩
  · rwa [heq]
  · rw [heq]
    exact privilege_updatemode _ m
  · rw [heq]
    exact privilege_updatemode a.mmu m

lemma Privilege.fetch {f : Fetched} (hp : Privilege a.mmu) (h : fetch io a = some (f, b)) :
    Privilege b.mmu := by
  obtain ⟨-, hmode, -, -, hmem⟩ := fetch_same h
  have hp' : a.mmu.memmode = armModePriv a.mode := hp
  rw [Privilege, hmem, hp', ← hmode]
  rfl

lemma Reached.privilege (h : Reached io a) : Privilege a.mmu := by
  induction h with
  | reset mem dev => exact privilege_updatemode (resetState mem dev) supervisorMode
  | exec _ hs ih =>
    rcases armExec_cases hs with ⟨-, t, -, rfl⟩ | ⟨w, t, u, -, ht, hu, rfl⟩
    · exact privilege_exception t abortMode 0x10 4
    · exact ((ih.fetch ht).runBody hu).takeEvent _ _
  | devices _ mem dev ih => exact ih
  | invalidate _ addr ih => exact ih

lemma FetchRun.reached {Ok : Arm cfg D → Prop} (h : FetchRun io Ok a) : Reached io a := by
  induction h with
  | flush ha _ hs _ => exact ha.exec hs
  | exec _ _ hs _ _ ih => exact ih.exec hs
  | devices _ mem dev _ ih => exact ih.devices mem dev
  | invalidate _ addr ih => exact ih.invalidate addr

lemma follows_runBody {body : Body D} (hf : ¬ body.Flushes a) (h : runBody io a body = some b)
    (hkeep : ∀ l, body = .effects l → KeepsTables io l a) (htab : tables io b.mmu = tables io a.mmu) :
    Follows io a.mmu b.mmu := by
  cases body with
  | mcr opcode val =>
    cases h
    exact follows_mcr hf htab
  | effects l => exact follows_effects h (hkeep l rfl)

lemma Body.flushes_fetch {body : Body D} {f : Fetched} (h : fetch io a = some (f, b)) :
    body.Flushes b ↔ body.Flushes a := by
  obtain ⟨-, hmode, hctrl, hdac, -⟩ := fetch_same h
  cases body with
  | mcr opcode val => simp only [Body.Flushes, Mmu.Flushes, ctrlChanges, hmode, hctrl, hdac]
  | effects l => exact Iff.rfl

lemma walk_privileged {addr phys : UInt32} {rw : IsWrite} {perm : UInt8} {m m' : Bool}
    (h : walk io s m addr rw = .granted phys perm) (hm : m = true → m' = true) :
    walk io s m' addr rw = .granted phys perm := by
  obtain ⟨sec, d, ap, hx, hal, hperm⟩ := granted_iff.mp h
  refine granted_iff.mpr ⟨sec, d, ap, hx, ⟨hal.1, hal.2.1, fun h1 => ?_⟩, hperm⟩
  have hcheck := hal.2.2 h1
  cases m' with
  | true =>
    cases m with
    | true => exact hcheck
    | false => exact cp15CheckPermissions_privileged hcheck
  | false =>
    cases m with
    | true => exact absurd (hm rfl) (by decide)
    | false => exact hcheck

/-- **What every state of a run keeps**: the caches of a uniform page are coherent, and if the page
last fetched from is uniform and the PC is still in it, it is readable. -/
structure Kept (io : Devices D) (a : Arm cfg D) : Prop where
  coherent : ∀ p, Uniform (walk io a.mmu) p → Coherent False (walk io a.mmu) p a.mmu
  still : Uniform (walk io a.mmu) (page a.pc) → StillReadable io a

lemma Kept.exec {body : Body D} {irq fiq : Bool} {f : Fetched} (hk : Kept io a)
    (hp : Privilege a.mmu) (hf : ¬ body.Flushes a) (hs : armExec io a body irq fiq = some (f, b))
    (hkeep : PassKeepsTables io a b body)
    (hok : armModePriv a.mode = true → armModePriv b.mode = false → StillReadable io b) :
    Kept io b := by
  rcases armExec_cases hs with ⟨-, t, ht, rfl⟩ | ⟨w, t, u, -, ht, hu, rfl⟩
  · -- a Prefetch Abort forgets the page
    obtain ⟨htab, -⟩ := hkeep.2 _ _ ht
    obtain ⟨m, hm⟩ := exception_mmu t abortMode 0x10 4
    have hmmu : (nextPc (exception t abortMode 0x10 4)).mmu = updatemode t.mmu m := hm
    have hsteady := (fetch_steady ht htab).trans (follows_updatemode io t.mmu m).toSteady
    refine ⟨fun p huni => ?_, fun _ _ hpc => ?_⟩
    · rw [hmmu] at huni ⊢
      rw [hsteady.walk] at huni
      exact hsteady.coherent p huni (hk.coherent p huni)
    · rw [hmmu] at hpc
      rcases fetch_pccache ht with ⟨-, hnone⟩ | ⟨⟨_, hw⟩, -⟩
      · have hpc' : t.mmu.pccache = some _ := hpc
        rw [hnone] at hpc'
        cases hpc'
      · cases hw
  · obtain ⟨htab, hbody⟩ := hkeep.2 _ _ ht
    have htabu : tables io u.mmu = tables io t.mmu := by
      rw [htab, ← hkeep.1]
      exact (tables_takeEvent io u irq fiq).symm
    have hfollows : Follows io t.mmu (nextPc (takeEvent u irq fiq)).mmu :=
      (follows_runBody (mt (Body.flushes_fetch ht).mp hf) hu hbody htabu).trans
        (follows_takeEvent io u irq fiq)
    generalize nextPc (takeEvent u irq fiq) = b at hfollows hok hkeep
    have hsteady := (fetch_steady ht htab).trans hfollows.toSteady
    refine ⟨fun p huni => ?_, fun huni hon hpc => ?_⟩
    · rw [hsteady.walk] at huni
      exact hsteady.coherent p huni (hk.coherent p huni)
    · -- the PC is still in the page this pass fetched from
      rw [hsteady.walk] at huni
      rw [hsteady.mmuOn] at hon
      have hpage : page a.pc = page b.pc := by
        rcases fetch_pccache ht with ⟨hw, -⟩ | ⟨-, hpt⟩
        · cases hw
        · rcases hfollows.pccache with hsame | hnone
          · rw [hsame, hpt] at hpc
            exact Option.some.inj hpc
          · rw [hnone] at hpc
            cases hpc
      by_cases hdrop : armModePriv a.mode = true ∧ armModePriv b.mode = false
      · exact hok hdrop.1 hdrop.2 (hsteady.mmuOn.trans hon) hpc
      · rw [← hpage] at huni
        obtain ⟨phys, perm, hw⟩ := readable_of_fetch ht hon hp huni (hk.coherent _ huni)
          (hk.still huni)
        have hw' := huni.page_granted rfl hpage.symm hw
        refine ⟨frame phys ||| low b.pc, perm, ?_⟩
        rw [hsteady.walk]
        exact walk_privileged hw' fun ha => by simpa [ha] using hdrop

lemma Kept.flush {opcode val w : UInt32} {irq fiq : Bool} (hf : (Body.mcr opcode val).Flushes a)
    (hs : armExec io a (.mcr opcode val) irq fiq = some (.executed w, b)) (hok : StillReadable io b) :
    Kept io b := by
  rcases armExec_cases hs with ⟨hw, -⟩ | ⟨w', t, u, -, ht, hu, rfl⟩
  · cases hw
  · cases hu
    obtain ⟨hpriv, hflush⟩ := (Body.flushes_fetch ht).mpr hf
    have hstep : step io t.mmu (.cp15Write opcode val) = some (0, (mcr t opcode val).mmu) := by
      rw [mcr_mmu hpriv]
      rfl
    have hfollows := follows_takeEvent io (mcr t opcode val) irq fiq
    refine ⟨fun p huni => ?_, fun _ => hok⟩
    have hwalk : walk io (nextPc (takeEvent (mcr t opcode val) irq fiq)).mmu =
        walk io (mcr t opcode val).mmu := hfollows.walk
    rw [hwalk] at huni
    exact hfollows.coherent p huni (coherent_of_flushes hflush hstep)

lemma Kept.between (hk : Kept io a) (h : Follows io a.mmu t) (hmode : t.mode = a.mmu.mode) :
    Kept io { a with mmu := t } := by
  have hpc : Arm.pc { a with mmu := t } = a.pc := by
    simp only [Arm.pc, Arm.mode, hmode]
  refine ⟨fun p huni => ?_, fun huni hon hpage => ?_⟩
  · have huni' : Uniform (walk io t) p := huni
    rw [h.walk] at huni'
    exact h.coherent p huni' (hk.coherent p huni')
  · rw [hpc] at hpage huni
    have huni' : Uniform (walk io t) (page a.pc) := huni
    rw [h.walk] at huni'
    have hon' : mmuOn t = true := hon
    rw [h.mmuOn] at hon'
    have hcached : a.mmu.pccache = some (page a.pc) := by
      rcases h.pccache with heq | hnone
      · rw [← heq]
        exact hpage
      · have hpage' : t.pccache = some (page a.pc) := hpage
        rw [hnone] at hpage'
        cases hpage'
    obtain ⟨phys, perm, hw⟩ := hk.still huni' hon' hcached
    refine ⟨phys, perm, ?_⟩
    rw [hpc]
    simp only [Arm.mode, hmode, h.walk]
    exact hw

/-- **Every state of a run keeps it.** -/
theorem FetchRun.kept (h : FetchRun io (StillReadable io) a) : Kept io a := by
  induction h with
  | flush _ hf hs hok => exact Kept.flush hf hs hok
  | exec ha hf hs hkeep hok ih => exact ih.exec ha.reached.privilege hf hs hkeep hok
  | devices ha mem dev htab ih => exact ih.between (follows_others htab) rfl
  | invalidate ha addr ih => exact ih.between (follows_invalidate io _ addr) rfl

/-- **Every opcode executed is readable**: with the MMU on and the page tables unedited since the
last flush, a pass executes an opcode only where the walk permits a read at the PC, at the privilege
of the mode, and takes a Prefetch Abort otherwise.  The run's steps that flush, or go from a
privileged mode to User, do not stay in a page that is then unreadable, and the sub-pages of the
PC's page refuse the same accesses. -/
theorem executed_readable (io : Devices D) (a b : Arm cfg D) (h : FetchRun io (StillReadable io) a)
    (hon : mmuOn a.mmu = true) (hsame : SameEffect a.mmu.ctrl (tables io a.mmu) (page a.pc))
    (body : Body D) (irq fiq : Bool) (f : Fetched) (hs : armExec io a body irq fiq = some (f, b)) :
    (∀ w, f = .executed w → Readable io a) ∧ (¬ Readable io a → f = .prefetchAbort) := by
  have hk := h.kept
  have huni := uniform_of_sameEffect hsame
  have hread : ∀ w, f = .executed w → Readable io a := by
    rintro w rfl
    rcases armExec_cases hs with ⟨hf, -⟩ | ⟨w', t, u, -, ht, -, -⟩
    · cases hf
    · exact readable_of_fetch ht hon h.reached.privilege huni (hk.coherent _ huni) (hk.still huni)
  refine ⟨hread, fun hno => ?_⟩
  cases f with
  | prefetchAbort => rfl
  | executed w => exact absurd (hread w rfl) hno

end Steps

/-! ## The gap -/

section Gap

/-- A program in ROM: build the registers' values, set the table base, the Domains and the control
register, drop to User with an `MSR`, and carry on. -/
def dropProgram : List UInt32 :=
  [0xe3a00201, 0xe3a01001, 0xe3a02071, 0xe3a03010, 0xee020f10, 0xee031f10, 0xee012f10, 0xe121f003]

/-- The ROM with the program, and a first-level table all over SIMM 0 that maps every section to the
ROM for privileged modes alone: descriptor `0x00000402`. -/
def dropMem : Memory := fun r =>
  if r = .rom then
    (dropProgram.zipIdx.foldl (fun m w => m.setWord (UInt32.ofNat (4 * w.2)) w.1) (fun _ => 0))
  else if r = .ram00 then Block.fill 0x00000402
  else fun _ => 0

def pass (a : Arm cardConfig Unit) (body : Body Unit) : Arm cardConfig Unit :=
  ((armExec noDevices a body false false).getD (.prefetchAbort, a)).2

def beforeOn : Arm cardConfig Unit :=
  [.effects [], .effects [], .effects [], .effects [], .mcr 0xee020f10 0x10000000,
    .mcr 0xee031f10 1].foldl pass (armReset dropMem ())

def dropOn : Arm cardConfig Unit := pass beforeOn (.mcr 0xee012f10 0x71)

def dropped : Arm cardConfig Unit := pass dropOn (.effects [.writeCpsr 0xe121f003 0x10])

lemma pass_eq {a : Arm cardConfig Unit} {body : Body Unit} {f : Fetched}
    (h : (armExec noDevices a body false false).map Prod.fst = some f) :
    armExec noDevices a body false false = some (f, pass a body) := by
  obtain ⟨⟨f', b⟩, hb, rfl⟩ := Option.map_eq_some_iff.mp h
  rw [pass, hb]
  rfl

lemma reached_pass {a : Arm cardConfig Unit} (h : Reached noDevices a) (body : Body Unit) :
    Reached noDevices (pass a body) := by
  cases hs : armExec noDevices a body false false with
  | none =>
    rw [pass, hs]
    exact h
  | some r =>
    rw [pass, hs]
    exact h.exec hs

lemma reached_passes {a : Arm cardConfig Unit} (h : Reached noDevices a) (l : List (Body Unit)) :
    Reached noDevices (l.foldl pass a) := by
  induction l generalizing a with
  | nil => exact h
  | cons body l ih => exact ih (reached_pass h body)

lemma dropOn_executed : (armExec noDevices beforeOn (.mcr 0xee012f10 0x71) false false).map Prod.fst =
    some (.executed 0xee012f10) := by
  decide +kernel

lemma beforeOn_flushes : (Body.mcr 0xee012f10 0x71 : Body Unit).Flushes beforeOn :=
  ⟨by decide +kernel, .inl ⟨by decide, by decide +kernel⟩⟩

lemma fetchRun_dropOn {Ok : Arm cardConfig Unit → Prop} (hok : Ok dropOn) :
    FetchRun noDevices Ok dropOn :=
  .flush (reached_passes (.reset dropMem ()) _) beforeOn_flushes (pass_eq dropOn_executed) hok

lemma dropped_executed :
    (armExec noDevices dropOn (.effects [.writeCpsr 0xe121f003 0x10]) false false).map Prod.fst =
      some (.executed 0xe121f003) := by
  decide +kernel

lemma passKeepsTables_writeCpsr {a b : Arm cardConfig Unit} {opcode value : UInt32} {f : Fetched}
    (hpc : a.mmu.pccache = some (page a.pc))
    (hs : armExec noDevices a (.effects [.writeCpsr opcode value]) false false = some (f, b)) :
    PassKeepsTables noDevices a b (.effects [.writeCpsr opcode value]) := by
  have hfetch : ∀ {f' t}, fetch noDevices a = some (f', t) → t = a := by
    intro f' t ht
    rcases fetch_cases ht with ⟨-, -, rfl⟩ | ⟨_, _, hne, -⟩
    · rfl
    · exact absurd hpc hne
  have hcpsr : tables noDevices (armWriteCpsr a opcode value).mmu = tables noDevices a.mmu := by
    rcases armWriteCpsr_mmu a opcode value with heq | ⟨m, heq⟩
    · rw [heq]
    · rw [heq]
      rfl
  refine ⟨?_, fun f' t ht => ?_⟩
  · rcases armExec_cases hs with ⟨-, t, ht, rfl⟩ | ⟨w, t, u, -, ht, hu, rfl⟩
    · obtain ⟨m, hm⟩ := exception_mmu t abortMode 0x10 4
      rw [hfetch ht] at hm ⊢
      exact (congrArg (tables noDevices) hm).trans rfl
    · rw [hfetch ht] at hu
      cases hu
      exact (tables_takeEvent noDevices _ false false).trans hcpsr
  · rw [hfetch ht]
    refine ⟨rfl, ?_⟩
    rintro l ⟨⟩ c hc
    cases hc
    exact ⟨hcpsr, trivial⟩

lemma dropOn_tables (addr : UInt32) :
    tables noDevices dropOn.mmu addr = .page true 0 1 (0 ||| (addr &&& 0xfffff)) := by
  have hmem : dropOn.mmu.mem .ram00 = Block.fill 0x00000402 := rfl
  have htlb : dropOn.mmu.tlbram = some (.ram00, 0x7ffff) := rfl
  have hword : ∀ i : UInt32, (Block.fill 0x00000402).word (i * 4) = 0x00000402 :=
    fun i => Block.word_fill _ (mul_four_and_three i)
  simp only [tables, descend, firstLevel, htlb, Option.map_some, hmem, hword]
  rfl

theorem executed_readable_drop :
    (armExec noDevices dropOn (.effects [.writeCpsr 0xe121f003 0x10]) false false).map Prod.fst =
      some (.executed 0xe121f003) ∧ Readable noDevices dropOn := by
  have hstill : StillReadable noDevices dropOn := fun _ _ => ⟨0x1c, 0xc, by decide +kernel⟩
  have hsame : SameEffect dropOn.mmu.ctrl (tables noDevices dropOn.mmu) (page dropOn.pc) := by
    intro a b _ _ sec d ap phys sec' d' ap' phys' ha hb m rw
    rw [dropOn_tables, Descent.page.injEq] at ha hb
    rw [← ha.2.2.1, ← hb.2.2.1]
  have h := executed_readable noDevices dropOn dropped (fetchRun_dropOn hstill) (by decide +kernel)
    hsame _ false false _ (pass_eq dropped_executed)
  exact ⟨dropped_executed, h.1 _ rfl⟩

/-- **An opcode is executed that User may not read**: after the `MSR` the page is still the one
fetched from last. -/
theorem user_fetch_unchecked :
    ¬ ∀ a b : Arm cardConfig Unit, FetchRun noDevices (fun _ => True) a → mmuOn a.mmu = true →
      ∀ body irq fiq w, armExec noDevices a body irq fiq = some (.executed w, b) →
        Readable noDevices a := by
  intro hall
  have hrun : FetchRun noDevices (fun _ => True) dropped :=
    .exec (fetchRun_dropOn trivial) id (pass_eq dropped_executed)
      (passKeepsTables_writeCpsr (by decide +kernel) (pass_eq dropped_executed)) fun _ _ => trivial
  have hnext : (armExec noDevices dropped (.effects []) false false).map Prod.fst =
      some (.executed 0) := by decide +kernel
  obtain ⟨phys, perm, hw⟩ := hall _ _ hrun (by decide +kernel) _ _ _ _ (pass_eq hnext)
  have hrefused : walk noDevices dropped.mmu (armModePriv dropped.mode) dropped.pc false =
      .refused 0 0xd := by decide +kernel
  rw [hrefused] at hw
  cases hw

end Gap

end RpcEmu.Mmu
