import RpcEmu.Mmu.FastMaps

/-!
# Looking at the machine

`mem_debug_translate` and `mem_debug_read` are the debugger's way into the guest's address space, and
are to leave no trace.  With the MMU on they walk the tables by `translateaddress2`, which is the CPU's
own: it raises an abort, which they take back, records the fault in CP15, which they do not, and enters
the page in the TLB.

* **One look.**  `look_undisturbed` and `spared_of_undisturbed`: what the guest can see is unchanged
  exactly when no byte is refused, unless the fault registers already tell of that fault.
* **Two runs**, one looked at and one not (`Twins`): registers, memory and devices are the same all
  along, and so is the outcome of every operation (`looks_unnoticed`).
* **The gap.**  `look_rewrites_fault`: a look at an unmapped address leaves its address and status in
  the fault registers.
-/

namespace RpcEmu.Mmu

open Bytes Pages

section Functions

variable {D : Type} {cfg : Config} (io : Devices D) (s : Machine cfg D)

/-- `mem_debug_translate`: the physical address, `none` where there is none.  Putting `arm.event` back
takes back the abort. -/
def memDebugTranslate (vaddr : UInt32) : Option (Option UInt32 × Machine cfg D) :=
  if mmuOn s then
    match translateaddress2 io s vaddr false false with
    | none => none
    | some (p, t) =>
      if t.abort then some (none, { t with abort := s.abort })
      else some (some p, { t with abort := s.abort })
  else some (some vaddr, s)

/-- The loop of `mem_debug_read`, from byte `i` on. -/
def memDebugBytes (vaddr : UInt32) :
    Nat → UInt32 → UInt32 → Machine cfg D → Option (Option UInt32 × Machine cfg D)
  | 0, _, value, s => some (some value, s)
  | n + 1, i, value, s =>
    match memDebugTranslate io s (vaddr + i) with
    | none => none
    | some (none, t) => some (none, t)
    | some (some phys, t) =>
      memDebugBytes vaddr n (i + 1)
        (value ||| ((memPhysRead8Debug cfg t.mem phys &&& 0xff) <<< (i * 8))) t

/-- `mem_debug_read`. -/
def memDebugRead (vaddr size : UInt32) : Option (Option UInt32 × Machine cfg D) :=
  if size ≠ 1 ∧ size ≠ 2 ∧ size ≠ 4 then some (none, s)
  else memDebugBytes io vaddr size.toNat 0 0 s

inductive Look
  | translate (vaddr : UInt32)
  | read (vaddr size : UInt32)

def Look.vaddr : Look → UInt32
  | .translate vaddr | .read vaddr _ => vaddr

def Look.count : Look → Nat
  | .translate _ => 1
  | .read _ size => if size ≠ 1 ∧ size ≠ 2 ∧ size ≠ 4 then 0 else size.toNat

/-- The machine after a look, with what the look found; `none` where the emulator stops. -/
def Look.take : Look → Option (Option UInt32 × Machine cfg D)
  | .translate vaddr => memDebugTranslate io s vaddr
  | .read vaddr size => memDebugRead io s vaddr size

/-! ## What a look may do unseen -/

/-- The walk of an address leaves the fault registers as they are: it is granted, or they already hold
this fault.  It does not stop the emulator. -/
def Unmarked (addr : UInt32) : Prop :=
  match walk io s s.memmode addr false with
  | .fatal => False
  | .refused domain code =>
    s.faultAddress = addr ∧ s.faultStatus = (domain <<< 4) ||| code
  | .granted _ _ => True

/-- `mem_debug_read` goes on to the next byte. -/
def GoesOn (addr : UInt32) : Prop :=
  s.abort = false ∧ ∃ phys perm, walk io s s.memmode addr false = .granted phys perm

/-- Every byte that is reached, from byte `i` on, is walked without a mark. -/
def SparedFrom (vaddr : UInt32) : Nat → UInt32 → Prop
  | 0, _ => True
  | n + 1, i =>
    Quiet io s (vaddr + i) ∧ Unmarked io s (vaddr + i) ∧
      (GoesOn io s (vaddr + i) → SparedFrom vaddr n (i + 1))

/-- The descriptors of the bytes, from byte `i` on, are not in a device that would notice. -/
def QuietFrom (vaddr : UInt32) : Nat → UInt32 → Prop
  | 0, _ => True
  | n + 1, i => Quiet io s (vaddr + i) ∧ QuietFrom vaddr n (i + 1)

/-- The look leaves all the guest could see. -/
def Undisturbed (l : Look) : Prop := ∃ v t, l.take io s = some (v, t) ∧ t.guest = s.guest

/-- **When a look is not seen**: the MMU is off, or every byte reached is walked without a mark. -/
def Spared (l : Look) : Prop := mmuOn s = true → SparedFrom io s l.vaddr l.count 0

end Functions

section OneLook

variable {D : Type} {cfg : Config} {io : Devices D} {s t : Machine cfg D} {vaddr : UInt32}
  {E : UInt32 → Prop}

/-- **What `mem_debug_translate` does** with the MMU on. -/
lemma memDebugTranslate_on (hon : mmuOn s = true) (addr : UInt32) :
    memDebugTranslate io s addr =
      match walk io s s.memmode addr false with
      | .fatal => none
      | .refused domain code =>
        some (none, { s with dev := (descend io s addr).2, faultAddress := addr,
                             faultStatus := (domain <<< 4) ||| code })
      | .granted phys perm =>
        some (if s.abort then none else some phys,
          cp15TlbAddEntry { s with dev := (descend io s addr).2 } addr phys perm) := by
  rw [memDebugTranslate, if_pos hon, translateaddress2]
  cases hw : walk io s s.memmode addr false with
  | fatal => rfl
  | refused domain code => rfl
  | granted phys perm =>
    cases hab : s.abort with
    | true => simp [cp15TlbAddEntry]
    | false => simp [cp15TlbAddEntry]

lemma memDebugTranslate_quiet (hon : mmuOn s = true) {addr : UInt32} (hq : Quiet io s addr) :
    memDebugTranslate io s addr =
      match walk io s s.memmode addr false with
      | .fatal => none
      | .refused domain code =>
        some (none, { s with faultAddress := addr, faultStatus := (domain <<< 4) ||| code })
      | .granted phys perm =>
        some (if s.abort then none else some phys, cp15TlbAddEntry s addr phys perm) := by
  rw [memDebugTranslate_on hon, show (descend io s addr).2 = s.dev from hq]

lemma memDebugBytes_off (hoff : mmuOn s = false) (n : Nat) (i value : UInt32) :
    ∃ v, memDebugBytes io vaddr n i value s = some (v, s) := by
  induction n generalizing i value with
  | zero => exact ⟨_, rfl⟩
  | succ n ih =>
    simp only [memDebugBytes, memDebugTranslate, hoff]
    exact ih (i + 1) _

theorem look_off (hoff : mmuOn s = false) (l : Look) : ∃ v, l.take io s = some (v, s) := by
  cases l with
  | translate vaddr => exact ⟨some vaddr, by simp [Look.take, memDebugTranslate, hoff]⟩
  | read vaddr size =>
    simp only [Look.take, memDebugRead]
    split
    · exact ⟨none, rfl⟩
    · exact memDebugBytes_off hoff _ _ _

/-! ## The conditions are about what the guest can see -/

lemma sparedFrom_bare (n : Nat) (i : UInt32) :
    SparedFrom io s vaddr n i ↔ SparedFrom io (s.guest.bare cfg) vaddr n i := by
  induction n generalizing i with
  | zero => exact Iff.rfl
  | succ n ih => exact and_congr Iff.rfl (and_congr Iff.rfl (imp_congr Iff.rfl (ih (i + 1))))

lemma sparedFrom_congr (h : t.guest = s.guest) (n : Nat) (i : UInt32) :
    SparedFrom io t vaddr n i ↔ SparedFrom io s vaddr n i := by
  rw [sparedFrom_bare, h, ← sparedFrom_bare]

lemma quietFrom_bare (n : Nat) (i : UInt32) :
    QuietFrom io s vaddr n i ↔ QuietFrom io (s.guest.bare cfg) vaddr n i := by
  induction n generalizing i with
  | zero => exact Iff.rfl
  | succ n ih => exact and_congr Iff.rfl (ih (i + 1))

lemma quietFrom_congr (h : t.guest = s.guest) (n : Nat) (i : UInt32) :
    QuietFrom io t vaddr n i ↔ QuietFrom io s vaddr n i := by
  rw [quietFrom_bare, h, ← quietFrom_bare]

lemma mmuOn_congr (h : t.guest = s.guest) : mmuOn t = mmuOn s := by
  have hctrl : t.ctrl = s.ctrl := congrArg Guest.ctrl h
  rw [mmuOn, mmuOn, hctrl]

/-! ## The caches after a look -/

lemma Sound.tlbAdd (h : Sound io E s) (hon : mmuOn s = true) {addr phys : UInt32} {perm : UInt8}
    (hw : walk io s s.memmode addr false = .granted phys perm) :
    Sound io E (cp15TlbAddEntry s addr phys perm) := by
  refine ⟨fun hoff => ?_, fun p hE hone => ?_⟩
  · have hon' : mmuOn (cp15TlbAddEntry s addr phys perm) = true := hon
    rw [hon'] at hoff
    cases hoff
  · have hcoh := h.coherent p hE hone
    have hu := uniform_of_onePermission hone
    refine ⟨hcoh.toHeld.tlbAdd hon fun hp m rw hperm => ?_, hcoh.cached⟩
    exact hu.grants hp (hu.perm_granted hp hw hperm)

lemma memDebugTranslate_spared (hon : mmuOn s = true) {addr : UInt32} (hq : Quiet io s addr)
    (hmark : Unmarked io s addr) :
    ∃ v t, memDebugTranslate io s addr = some (v, t) ∧ t.guest = s.guest ∧
      (v.isSome = true → GoesOn io s addr) ∧ (∀ E, Sound io E s → Sound io E t) := by
  rw [memDebugTranslate_quiet hon hq]
  unfold Unmarked at hmark
  cases hw : walk io s s.memmode addr false with
  | fatal =>
    rw [hw] at hmark
    exact hmark.elim
  | refused domain code =>
    simp only [hw] at hmark
    obtain ⟨hfa, hfs⟩ := hmark
    refine ⟨none, s, ?_, rfl, nofun, fun E h => h⟩
    simp only [← hfs, ← hfa]
  | granted phys perm =>
    refine ⟨_, _, rfl, rfl, fun hsome => ⟨?_, phys, perm, hw⟩, fun E h => h.tlbAdd hon hw⟩
    by_contra hab
    simp [hab] at hsome

/-- **The bytes of a look** that is spared: none leaves a mark, and the caches stay sound. -/
lemma memDebugBytes_spared (n : Nat) (i value : UInt32) (hon : mmuOn s = true)
    (h : SparedFrom io s vaddr n i) :
    ∃ v t, memDebugBytes io vaddr n i value s = some (v, t) ∧ t.guest = s.guest ∧
      (∀ E, Sound io E s → Sound io E t) := by
  induction n generalizing i value s with
  | zero => exact ⟨_, s, rfl, rfl, fun E h => h⟩
  | succ n ih =>
    obtain ⟨hq, hmark, hrest⟩ := h
    obtain ⟨v, t, ht, hguest, hgoes, hsound⟩ := memDebugTranslate_spared hon hq hmark
    simp only [memDebugBytes, ht]
    cases v with
    | none => exact ⟨none, t, rfl, hguest, hsound⟩
    | some phys =>
      have hrest' := (sparedFrom_congr hguest n (i + 1)).mpr (hrest (hgoes rfl))
      obtain ⟨v, u, hu, hguest', hsound'⟩ := ih (i + 1)
        (value ||| ((memPhysRead8Debug cfg t.mem phys &&& 0xff) <<< (i * 8)))
        ((mmuOn_congr hguest).trans hon) hrest'
      exact ⟨v, u, hu, hguest'.trans hguest, fun E h => hsound' E (hsound E h)⟩

/-- **A look that is spared** is not seen, and leaves the caches sound. -/
theorem look_spared {l : Look} (h : Spared io s l) :
    ∃ v t, l.take io s = some (v, t) ∧ t.guest = s.guest ∧ (∀ E, Sound io E s → Sound io E t) := by
  cases hon : mmuOn s with
  | false =>
    obtain ⟨v, hv⟩ : ∃ v, l.take io s = some (v, s) := look_off hon l
    exact ⟨v, s, hv, rfl, fun E h => h⟩
  | true =>
    have hfrom := h hon
    cases l with
    | translate vaddr =>
      obtain ⟨hq, hmark, -⟩ := hfrom
      simp only [Look.vaddr, UInt32.add_zero] at hq hmark
      obtain ⟨v, t, ht, hguest, -, hsound⟩ := memDebugTranslate_spared hon hq hmark
      exact ⟨v, t, ht, hguest, hsound⟩
    | read vaddr size =>
      simp only [Look.take, memDebugRead]
      split
      · exact ⟨none, s, rfl, rfl, fun E h => h⟩
      · rename_i hsize
        simp only [Look.count, if_neg hsize] at hfrom
        exact memDebugBytes_spared _ _ _ hon hfrom

lemma sparedFrom_of_guest (n : Nat) (i value : UInt32) (hon : mmuOn s = true)
    (hq : QuietFrom io s vaddr n i) {v : Option UInt32}
    (ht : memDebugBytes io vaddr n i value s = some (v, t)) (hguest : t.guest = s.guest) :
    SparedFrom io s vaddr n i := by
  induction n generalizing i value s with
  | zero => trivial
  | succ n ih =>
    obtain ⟨hq0, hrest⟩ := hq
    refine ⟨hq0, ?_⟩
    simp only [memDebugBytes, memDebugTranslate_quiet hon hq0] at ht
    cases hw : walk io s s.memmode (vaddr + i) false with
    | fatal =>
      simp only [hw] at ht
      cases ht
    | refused domain code =>
      simp only [hw, Option.some.injEq, Prod.mk.injEq] at ht
      obtain ⟨-, rfl⟩ := ht
      have hfa := congrArg Guest.faultAddress hguest
      have hfs := congrArg Guest.faultStatus hguest
      refine ⟨?_, ?_⟩
      · simp only [Unmarked, hw]
        exact ⟨hfa.symm, hfs.symm⟩
      · rintro ⟨-, phys, perm, hg⟩
        rw [hw] at hg
        cases hg
    | granted phys perm =>
      refine ⟨by simp only [Unmarked, hw], ?_⟩
      rintro ⟨hab, -⟩
      simp only [hw, hab, Bool.false_eq_true, if_false] at ht
      have hentered : (cp15TlbAddEntry s (vaddr + i) phys perm).guest = s.guest := rfl
      refine (sparedFrom_congr hentered n (i + 1)).mp (ih (i + 1) _ hon ?_ ht hguest)
      exact (quietFrom_congr hentered n (i + 1)).mpr hrest

/-- **Exactly when a look is not seen**, where no device notices that its descriptors are read. -/
theorem undisturbed_iff {l : Look} (hq : QuietFrom io s l.vaddr l.count 0) :
    Undisturbed io s l ↔ Spared io s l := by
  refine ⟨?_, fun h => ?_⟩
  · rintro ⟨v, t, ht, hguest⟩ hon
    cases l with
    | translate vaddr =>
      have ht' : memDebugTranslate io s (vaddr + 0) = some (v, t) := by
        rw [UInt32.add_zero]
        exact ht
      have hbytes : ∃ v', memDebugBytes io vaddr 1 0 0 s = some (v', t) := by
        simp only [memDebugBytes, ht']
        cases v <;> exact ⟨_, rfl⟩
      obtain ⟨v', hv'⟩ := hbytes
      exact sparedFrom_of_guest 1 0 0 hon hq hv' hguest
    | read vaddr size =>
      simp only [Look.take, memDebugRead] at ht
      simp only [Look.vaddr, Look.count] at hq ⊢
      split at ht
      · rename_i hsize
        rw [if_pos hsize]
        trivial
      · rename_i hsize
        rw [if_neg hsize] at hq ⊢
        exact sparedFrom_of_guest _ 0 0 hon hq ht hguest
  · obtain ⟨v, t, ht, hguest, -⟩ := look_spared h
    exact ⟨v, t, ht, hguest⟩

end OneLook

/-! ## Two runs -/

/-- A processor: its registers, what it asks of the MMU next, and how it goes on from the answer and
from what it can see of the MMU. -/
structure Core (D R : Type) where
  asks : R → Op D
  moves : R → Answer → Guest D → R

structure System (cfg : Config) (D R : Type) where
  regs : R
  mmu : Machine cfg D

section Runs

variable {D R : Type} {cfg : Config} (core : Core D R) (io : Devices D)

def cycle (a : System cfg D R) : Option (System cfg D R) :=
  (answered io a.mmu (core.asks a.regs)).map fun r => ⟨core.moves a.regs r.1 r.2.guest, r.2⟩

def System.disturb (a : System cfg D R) (mem : Memory) (dev : D) : System cfg D R :=
  { a with mmu := { a.mmu with mem := mem, dev := dev } }

/-- **Two runs of one machine**: what happens in the first happens in the second, and the second is
looked at in between.  They start where the caches are empty, which is at reset and at any flush; `E`
has the pages edited since the last flush.  Every look is spared, the processor asks only for what is
plain, and no byte write enters another page than its own. -/
inductive Twins : (UInt32 → Prop) → System cfg D R → System cfg D R → Prop
  | start {a : System cfg D R} (h : Emptied a.mmu) : Twins (fun _ => False) a a
  | look {E : UInt32 → Prop} {a b : System cfg D R} {l : Look} {v : Option UInt32}
      {t : Machine cfg D} (h : Twins E a b) (hl : Spared io b.mmu l)
      (ht : l.take io b.mmu = some (v, t)) : Twins E a { b with mmu := t }
  | cycle {E : UInt32 → Prop} {a b a' b' : System cfg D R} (h : Twins E a b)
      (hp : Plain io E a.mmu (core.asks a.regs))
      (hfa : ¬ (core.asks a.regs).Misfiled io a.mmu) (hfb : ¬ (core.asks b.regs).Misfiled io b.mmu)
      (ha : cycle core io a = some a') (hb : cycle core io b = some b') :
      Twins (edited io E a.mmu (core.asks a.regs) a'.mmu) a' b'
  | disturb {E : UInt32 → Prop} {a b : System cfg D R} (h : Twins E a b) (mem : Memory) (dev : D) :
      Twins (edited io E a.mmu (.others mem dev) (a.disturb mem dev).mmu) (a.disturb mem dev)
        (b.disturb mem dev)

variable {core io} {E : UInt32 → Prop} {s t s' t' : Machine cfg D} {op : Op D}

/-! ## What two such machines agree on -/

lemma edited_congr (h : t.guest = s.guest) (h' : t'.guest = s'.guest) (op : Op D) :
    edited io E t op t' = edited io E s op s' := by
  have hbare : ∀ u u' : Machine cfg D, edited io E u op u' =
      edited io E (u.guest.bare cfg) op (u'.guest.bare cfg) := by
    intro u u'
    cases op <;> rfl
  rw [hbare t t', h, h', ← hbare]

lemma plain_congr (h : t.guest = s.guest) (hp : Plain io E s op) : Plain io E t op := by
  have hbare : ∀ u : Machine cfg D, Plain io E u op = Plain io E (u.guest.bare cfg) op := by
    intro u
    cases op <;> rfl
  rw [hbare, h, ← hbare]
  exact hp

/-- **The same operation has the same outcome** from sound caches over the same machine. -/
lemma answered_congr (hs : Sound io E s) (ht : Sound io E t) (h : t.guest = s.guest)
    (hp : Plain io E s op) : (answered io t op).map onGuest = (answered io s op).map onGuest := by
  rw [answered_guest ht (plain_congr h hp), answered_guest hs hp, h]

lemma Sound.answered (h : Sound io E s) (hfile : ¬ op.Misfiled io s) {x : Answer}
    (ht : answered io s op = some (x, t)) : Sound io (edited io E s op t) t := by
  have hstep : Mmu.step io s op = some (x.1, t) := by
    rw [← answered_step, ht]
    rfl
  exact h.step hfile hstep

lemma Sound.disturb {a : System cfg D R} (h : Sound io E a.mmu) (mem : Memory) (dev : D) :
    Sound io (edited io E a.mmu (.others mem dev) (a.disturb mem dev).mmu) (a.disturb mem dev).mmu := by
  have hstep : Mmu.step io a.mmu (.others mem dev) = some (0, (a.disturb mem dev).mmu) := rfl
  have hfile : ¬ (Op.others mem dev).Misfiled io a.mmu := id
  exact h.step hfile hstep

/-- **Two runs agree on all that can be seen**, and neither's caches hold anything wrong. -/
theorem Twins.agree {a b : System cfg D R} (h : Twins core io E a b) :
    b.regs = a.regs ∧ b.mmu.guest = a.mmu.guest ∧ Sound io E a.mmu ∧ Sound io E b.mmu := by
  induction h with
  | start h => exact ⟨rfl, rfl, h.sound _, h.sound _⟩
  | look h hl ht ih =>
    obtain ⟨hregs, hguest, ha, hb⟩ := ih
    obtain ⟨v, t, ht', hguest', hsound⟩ := look_spared hl
    rw [ht] at ht'
    cases ht'
    exact ⟨hregs, hguest'.trans hguest, ha, hsound _ hb⟩
  | @cycle E a b a' b' h hp hfa hfb hca hcb ih =>
    obtain ⟨hregs, hguest, ha, hb⟩ := ih
    obtain ⟨⟨x, s⟩, hxs, rfl⟩ := Option.map_eq_some_iff.mp hca
    obtain ⟨⟨y, t⟩, hyt, rfl⟩ := Option.map_eq_some_iff.mp hcb
    rw [hregs] at hfb hyt
    have hsame := answered_congr ha hb hguest hp
    rw [hxs, hyt, Option.map_some, Option.map_some, Option.some.injEq, onGuest, onGuest,
      Prod.mk.injEq] at hsame
    obtain ⟨rfl, hguest'⟩ := hsame
    refine ⟨?_, hguest', ha.answered hfa hxs, ?_⟩
    · rw [hregs, hguest']
    · rw [← edited_congr hguest hguest']
      exact hb.answered hfb hyt
  | @disturb E a b h mem dev ih =>
    obtain ⟨hregs, hguest, ha, hb⟩ := ih
    have hguest' : (b.disturb mem dev).mmu.guest = (a.disturb mem dev).mmu.guest :=
      congrArg (fun g : Guest D => { g with mem := mem, dev := dev }) hguest
    refine ⟨hregs, hguest', ha.disturb mem dev, ?_⟩
    rw [← edited_congr hguest hguest']
    exact hb.disturb mem dev

/-- **Looking at the machine is not noticed.**  In any state a look that is spared leaves all that the
guest can see as it is, and where no device notices a look these are all that do.  Of two runs of
which one is looked at, the registers, memory and devices are the same all along, and so is the
outcome of whatever comes next. -/
theorem looks_unnoticed (core : Core D R) (io : Devices D) :
    (∀ (s : Machine cfg D) (l : Look), Spared io s l → Undisturbed io s l) ∧
    (∀ (s : Machine cfg D) (l : Look), QuietFrom io s l.vaddr l.count 0 → Undisturbed io s l →
      Spared io s l) ∧
    ∀ (E : UInt32 → Prop) (a b : System cfg D R), Twins core io E a b →
      b.regs = a.regs ∧ b.mmu.guest = a.mmu.guest ∧
        ∀ op, Plain io E a.mmu op →
          (answered io b.mmu op).map onGuest = (answered io a.mmu op).map onGuest := by
  refine ⟨fun s l h => ?_, fun s l hq h => (undisturbed_iff hq).mp h, fun E a b h => ?_⟩
  · obtain ⟨v, t, ht, hguest, -⟩ := look_spared h
    exact ⟨v, t, ht, hguest⟩
  · obtain ⟨hregs, hguest, ha, hb⟩ := h.agree
    exact ⟨hregs, hguest, fun op hp => answered_congr ha hb hguest hp⟩

end Runs

/-! ## Where it is not seen, and where it is -/

section Seen

lemma emptied_of_empty {s : Machine cardConfig Unit} (htlb : s.tlb = .empty)
    (hreads : s.readMap = fun _ => .empty) (hwrites : s.writeMap = fun _ => .empty)
    (hmode : s.memcacheMemmode = none) : Emptied s := by
  intro W p
  refine ⟨⟨?_, ?_, ?_, ?_⟩, ?_⟩
  · rw [htlb]
    nofun
  · rw [hreads]
    nofun
  · rw [hwrites]
    nofun
  · rw [htlb]
    exact fun _ => rfl
  · rw [hmode]
    nofun

def writeThenRead : Core Unit Nat where
  asks n := if n = 0 then .access (.write32 0 0x11223344) else .access (.read32 0)
  moves n _ _ := n + 1

def lookedAt : Machine cardConfig Unit :=
  (((Look.read 0x5000 4).take noDevices framestoreOn).getD (none, framestoreOn)).2

lemma framestoreOn_spared (vaddr : UInt32) (n : Nat) (i : UInt32) :
    SparedFrom noDevices framestoreOn vaddr n i := by
  induction n generalizing i with
  | zero => trivial
  | succ n ih =>
    refine ⟨rfl, ?_, fun _ => ih (i + 1)⟩
    rw [Unmarked, walk, framestoreTable_tables (s := framestoreOn) rfl rfl]
    exact trivial

theorem looks_unnoticed_framestore :
    (answered noDevices lookedAt (.access (.write32 0 0x11223344))).map onGuest =
      (answered noDevices framestoreOn (.access (.write32 0 0x11223344))).map onGuest := by
  have hstart : Twins writeThenRead noDevices (fun _ => False) ⟨0, framestoreOn⟩ ⟨0, framestoreOn⟩ :=
    .start (emptied_of_empty rfl rfl rfl rfl)
  have hlook : Twins writeThenRead noDevices (fun _ => False) ⟨0, framestoreOn⟩ ⟨0, lookedAt⟩ :=
    hstart.look (l := .read 0x5000 4) (fun _ => framestoreOn_spared _ _ _) rfl
  refine ((looks_unnoticed writeThenRead noDevices).2.2 _ _ _ hlook).2.2 _ fun _ => ⟨id, ?_, rfl, ?_⟩
  · exact framestoreTable_onePermission rfl rfl _
  · exact fun _ => ⟨rfl, rfl⟩

def aborted : Machine cardConfig Unit :=
  ((access noDevices (tablesOn fun _ _ => 0) (.read32 0x2000)).getD (0, tablesOn fun _ _ => 0)).2

/-- **A look is not always unnoticed**: the fault at 0x2000 has left its address for the abort handler,
and a look at 0x1000 puts its own there. -/
theorem look_rewrites_fault :
    ¬ ∀ (s : Machine cardConfig Unit) (l : Look), Undisturbed noDevices s l := by
  intro h
  obtain ⟨v, t, ht, hguest⟩ := h aborted (.read 0x1000 4)
  have hbefore : aborted.faultAddress = 0x2000 := by decide +kernel
  have hafter : ((Look.read 0x1000 4).take noDevices aborted).map (fun r => r.2.faultAddress) =
      some 0x1000 := by decide +kernel
  rw [ht, Option.map_some, show t.faultAddress = aborted.faultAddress from
    congrArg Guest.faultAddress hguest, hbefore] at hafter
  exact absurd hafter (by decide)

end Seen

end RpcEmu.Mmu
