import RpcEmu.Usb.Footprint
import RpcEmu.Lib.Threaded
import Mathlib.Data.List.Pairwise

/-!
# A schedule in memory

The endpoints and descriptors that a driver has laid out, and what the controller keeps of it while it works
through the queues.

* `Schedule` names the endpoints and, in order, the descriptors queued on each.  `Schedule.Apart` says that
  they and the communication area are in RAM and that no two words of them are one word.
* **`Good`**: the queue of an endpoint still leads through exactly those of its descriptors that have not
  been retired, the done queue through those that have been and are not published, newest first, and the
  last published list is still there.  `Good.congr` is the frame rule: it rests on the link words alone.
-/

namespace RpcEmu.Usb

open Threads

/-! ## Where a schedule is -/

structure Queue where
  ed : UInt32
  tds : List UInt32
  iso : Bool
  deriving DecidableEq

abbrev Schedule := List Queue

inductive Place where
  | ed (ed off : UInt32)
  | td (td off : UInt32)
  | hcca (off : UInt32)
  deriving DecidableEq

def Place.addr (hcca : UInt32) : Place → UInt32
  | .ed e off => e + off
  | .td t off => t + off
  | .hcca off => hcca + off

/-- A word the lists are threaded by. -/
def Place.IsLink : Place → Prop
  | .ed _ _ => True
  | .td _ off => off = tdNextTd
  | .hcca off => off ≠ hccaFrameNumber

def Queue.left (q : Queue) (retired : List UInt32) : List UInt32 := q.tds.filter fun t => t ∉ retired

namespace Schedule

variable (S : Schedule)

def eds : List UInt32 := S.map Queue.ed

def tds : List UInt32 := S.flatMap Queue.tds

/-- The place is one of the schedule's. -/
def Holds (hcca : UInt32) : Place → Prop
  | .ed e off => e ∈ S.eds ∧ off &&& 3 = 0 ∧ off ≤ 12
  | .td t off => ∃ q ∈ S, t ∈ q.tds ∧ off &&& 3 = 0 ∧ off ≤ (if q.iso then 28 else 12)
  | .hcca off => hcca ≠ 0 ∧ off &&& 3 = 0 ∧ off ≤ hccaDoneHead

/-- The schedule's words are in RAM, each in its own. -/
structure Apart {κ : Type} (ram : Ram κ) (hcca : UInt32) : Prop where
  inRam : ∀ p, S.Holds hcca p → ram.cell (p.addr hcca) ≠ none
  inj : ∀ p p', S.Holds hcca p → S.Holds hcca p' →
    ram.cell (p.addr hcca) = ram.cell (p'.addr hcca) → p = p'
  eds_nodup : S.eds.Nodup
  tds_nodup : S.tds.Nodup
  nonzero : 0 ∉ S.tds

/-- Nothing was stored on the schedule's words. -/
def Spared {κ : Type} (ram : Ram κ) (hcca : UInt32) (stored : List UInt32) : Prop :=
  ∀ a ∈ stored, ∀ p, S.Holds hcca p → ram.cell a ≠ ram.cell (p.addr hcca)

end Schedule

section State

variable {κ D : Type} (ram : Ram κ) (S : Schedule)

/-- The descriptor after `t` on a queue. -/
def nextOf (o : Ohci κ D) (t : UInt32) : UInt32 := ohciRead32 ram o (t + tdNextTd) &&& edHeadMask

/-- The descriptor after `t` on the done queue. -/
def linkOf (o : Ohci κ D) (t : UInt32) : UInt32 := ohciRead32 ram o (t + tdNextTd)

/-- Every list leads to the schedule's endpoints. -/
structure Listed (o : Ohci κ D) : Prop where
  table : o.control &&& ohciPle ≠ 0 → o.hcca ≠ 0 → ∀ n, n < 32 →
    ohciRead32 ram o (o.hcca + hccaInterruptTable + n * 4) &&& edHeadMask ∈ 0 :: S.eds
  controlList : o.control &&& ohciCle ≠ 0 → o.commandStatus &&& ohciClf ≠ 0 →
    o.controlHeadEd &&& edHeadMask ∈ 0 :: S.eds
  bulkList : o.control &&& ohciBle ≠ 0 → o.commandStatus &&& ohciBlf ≠ 0 →
    o.bulkHeadEd &&& edHeadMask ∈ 0 :: S.eds
  next : ∀ e ∈ S.eds, ohciRead32 ram o (e + edNextEd) &&& edHeadMask ∈ 0 :: S.eds

/-- Every endpoint's queue is what is left of it. -/
structure Queues (o : Ohci κ D) : Prop where
  listed : Listed ram S o
  iso : ∀ q ∈ S, ohciRead32 ram o (q.ed + edFlags) &&& edFormatIso ≠ 0 ↔ q.iso
  queue : ∀ q ∈ S, Threaded (nextOf ram o) (ohciRead32 ram o (q.ed + edTailP) &&& edHeadMask)
    (ohciRead32 ram o (q.ed + edHeadP) &&& edHeadMask) (q.left o.retired)
  retired_mem : ∀ t ∈ o.retired, t ∈ S.tds
  nodup : o.retired.Nodup

/-- A schedule part of the way through: `reported` is what has been published, in the order it was retired,
and `last` the last list that was. -/
structure Good (reported : List UInt32) (last : Option (List UInt32)) (o : Ohci κ D) : Prop
    extends Queues ram S o where
  waits : ∃ waiting, o.retired = reported ++ waiting ∧ Threaded (linkOf ram o) 0 o.doneQueue waiting.reverse ∧
    (o.donePending = true ↔ waiting ≠ [])
  last : ∀ l, last = some l → o.hcca ≠ 0 ∧ (∀ t ∈ l, t ∈ o.retired) ∧
    Threaded (linkOf ram o) 0 (ohciRead32 ram o (o.hcca + hccaDoneHead)) l

/-- A descriptor that is still to be done is what it was; so is an isochronous one, while its first frame is
still to come. -/
def Kept (o o' : Ohci κ D) : Prop :=
  ∀ q ∈ S, ∀ t ∈ q.tds, t ∉ o'.retired →
    (q.iso → 0x8000 ≤ itdIndex o' (ohciRead32 ram o' (t + itdFlags))) →
    ∀ off, S.Holds o.hcca (.td t off) → ohciRead32 ram o' (t + off) = ohciRead32 ram o (t + off)

/-- What a stretch of work leaves alone. -/
structure Progress (o o' : Ohci κ D) : Prop where
  regs : o'.regs = o.regs
  stored : o.stored <:+ o'.stored
  retired : o.retired <+: o'.retired
  kept : Kept ram S o o'

variable {ram S} {reported : List UInt32} {last : Option (List UInt32)} {o o' o'' : Ohci κ D}

lemma Progress.rfl' : Progress ram S o o :=
  ⟨rfl, List.suffix_rfl, List.prefix_rfl, fun _ _ _ _ _ _ _ _ => rfl⟩

lemma Kept.trans (h : Kept ram S o o') (h' : Kept ram S o' o'') (hretired : o'.retired ⊆ o''.retired)
    (hfm : o''.fmNumber = o'.fmNumber) (hhcca : o'.hcca = o.hcca) : Kept ram S o o'' := by
  intro q hq t ht hleft hfuture off hoff
  have hflags : S.Holds o'.hcca (.td t itdFlags) := by
    obtain ⟨q', hq', ht', -, -⟩ := hoff
    exact ⟨q', hq', ht', by decide, by split <;> decide⟩
  have hsame := h' q hq t ht hleft hfuture
  rw [hsame off (hhcca ▸ hoff)]
  refine h q hq t ht (fun hmem => hleft (hretired hmem)) (fun hi => ?_) off hoff
  have hindex := hfuture hi
  rw [hsame itdFlags hflags, itdIndex, hfm] at hindex
  exact hindex

lemma Progress.hcca (h : Progress ram S o o') : o'.hcca = o.hcca := congrArg Regs.hcca h.regs

lemma Progress.trans (h : Progress ram S o o') (h' : Progress ram S o' o'') : Progress ram S o o'' :=
  ⟨h'.regs.trans h.regs, h.stored.trans h'.stored, h.retired.trans h'.retired,
    h.kept.trans h'.kept h'.retired.subset (congrArg Regs.fmNumber h'.regs) h.hcca⟩

lemma Schedule.Spared.of_suffix {hcca : UInt32} {stored stored' : List UInt32}
    (h : S.Spared ram hcca stored') (hs : stored <:+ stored') : S.Spared ram hcca stored :=
  fun a ha => h a (hs.subset ha)

lemma holds_ed {hcca e off : UInt32} (he : e ∈ S.eds) (hoff : off &&& 3 = 0 ∧ off ≤ 12) :
    S.Holds hcca (.ed e off) := ⟨he, hoff⟩

lemma holds_td {hcca off : UInt32} {q : Queue} {t : UInt32} (hq : q ∈ S) (ht : t ∈ q.tds)
    (hoff : off &&& 3 = 0 ∧ off ≤ 12) : S.Holds hcca (.td t off) := by
  refine ⟨q, hq, ht, hoff.1, ?_⟩
  split
  · exact UInt32.le_trans hoff.2 (by decide)
  · exact hoff.2

lemma mem_tds {q : Queue} {t : UInt32} (hq : q ∈ S) (ht : t ∈ q.tds) : t ∈ S.tds :=
  List.mem_flatMap.mpr ⟨q, hq, ht⟩

lemma mem_eds {q : Queue} (hq : q ∈ S) : q.ed ∈ S.eds := List.mem_map_of_mem hq

lemma holds_link {hcca t : UInt32} (ht : t ∈ S.tds) : S.Holds hcca (.td t tdNextTd) := by
  obtain ⟨q, hq, ht⟩ := List.mem_flatMap.mp ht
  exact holds_td hq ht (by decide)

lemma entry_place {n : UInt32} (hn : n < 32) : (hccaInterruptTable + n * 4) &&& 3 = 0 ∧
    hccaInterruptTable + n * 4 ≤ hccaDoneHead ∧ hccaInterruptTable + n * 4 ≠ hccaFrameNumber ∧
    hccaInterruptTable + n * 4 ≠ hccaDoneHead := by
  have hall : ∀ k : Fin 32, (hccaInterruptTable + UInt32.ofNat k * 4) &&& 3 = 0 ∧
      hccaInterruptTable + UInt32.ofNat k * 4 ≤ hccaDoneHead ∧
      hccaInterruptTable + UInt32.ofNat k * 4 ≠ hccaFrameNumber ∧
      hccaInterruptTable + UInt32.ofNat k * 4 ≠ hccaDoneHead := by
    decide
  simpa only [UInt32.ofNat_toNat] using hall ⟨n.toNat, UInt32.lt_iff_toNat_lt.mp hn⟩

/-- The lists begin where they did. -/
structure SameLists (o o' : Ohci κ D) : Prop where
  control : o'.control = o.control
  commandStatus : o'.commandStatus = o.commandStatus
  hcca : o'.hcca = o.hcca
  controlHeadEd : o'.controlHeadEd = o.controlHeadEd
  bulkHeadEd : o'.bulkHeadEd = o.bulkHeadEd

lemma sameLists_of_regs (h : o'.regs = o.regs) : SameLists o o' :=
  ⟨congrArg Regs.control h, congrArg Regs.commandStatus h, congrArg Regs.hcca h, congrArg Regs.controlHeadEd h,
    congrArg Regs.bulkHeadEd h⟩

lemma Listed.congr (h : Listed ram S o) (hsame : SameLists o o')
    (htable : ∀ off, S.Holds o.hcca (.hcca off) → off ≠ hccaFrameNumber → off ≠ hccaDoneHead →
      ohciRead32 ram o' (o.hcca + off) = ohciRead32 ram o (o.hcca + off))
    (hnext : ∀ e ∈ S.eds, ohciRead32 ram o' (e + edNextEd) = ohciRead32 ram o (e + edNextEd)) :
    Listed ram S o' := by
  refine ⟨?_, ?_, ?_, ?_⟩
  · intro hple hne n hn
    rw [hsame.control] at hple
    rw [hsame.hcca] at hne ⊢
    obtain ⟨halign, hhigh, hframe, hdone⟩ := entry_place hn
    have hentry := htable (hccaInterruptTable + n * 4) ⟨hne, halign, hhigh⟩ hframe hdone
    simp only [← UInt32.add_assoc] at hentry
    rw [hentry]
    exact h.table hple hne n hn
  · intro hcle hclf
    rw [hsame.controlHeadEd]
    rw [hsame.control] at hcle
    rw [hsame.commandStatus] at hclf
    exact h.controlList hcle hclf
  · intro hble hblf
    rw [hsame.bulkHeadEd]
    rw [hsame.control] at hble
    rw [hsame.commandStatus] at hblf
    exact h.bulkList hble hblf
  · intro e he
    rw [hnext e he]
    exact h.next e he

lemma Queues.congr (h : Queues ram S o) (hsame : SameLists o o') (hretired : o'.retired = o.retired)
    (hwords : ∀ p, S.Holds o.hcca p → p.IsLink → p ≠ .hcca hccaDoneHead →
      ohciRead32 ram o' (p.addr o.hcca) = ohciRead32 ram o (p.addr o.hcca)) :
    Queues ram S o' := by
  have hed : ∀ e ∈ S.eds, ∀ off, off &&& 3 = 0 ∧ off ≤ 12 →
      ohciRead32 ram o' (e + off) = ohciRead32 ram o (e + off) := fun e he off hoff =>
    hwords (.ed e off) (holds_ed he hoff) trivial nofun
  refine ⟨h.listed.congr hsame
    (fun off hoff hframe hdone => hwords (.hcca off) hoff hframe fun heq => hdone (Place.hcca.inj heq))
    fun e he => hed e he edNextEd (by decide), ?_, ?_, ?_, ?_⟩
  · intro q hq
    rw [hed q.ed (mem_eds hq) edFlags (by decide)]
    exact h.iso q hq
  · intro q hq
    rw [hed q.ed (mem_eds hq) edTailP (by decide), hed q.ed (mem_eds hq) edHeadP (by decide), hretired]
    refine (threaded_congr fun t ht => congrArg (· &&& edHeadMask) ?_).mpr (h.queue q hq)
    exact hwords (.td t tdNextTd) (holds_link (mem_tds hq (List.mem_filter.mp ht).1)) rfl nofun
  · rw [hretired]
    exact h.retired_mem
  · rw [hretired]
    exact h.nodup

/-- **The frame rule.**  A schedule is where it was as long as its links are. -/
lemma Good.congr (h : Good ram S reported last o) (hsame : SameLists o o') (hdone : o'.done = o.done)
    (hwords : ∀ p, S.Holds o.hcca p → p.IsLink →
      ohciRead32 ram o' (p.addr o.hcca) = ohciRead32 ram o (p.addr o.hcca)) :
    Good ram S reported last o' := by
  have hqueue : o'.doneQueue = o.doneQueue := congrArg Done.doneQueue hdone
  have hpending : o'.donePending = o.donePending := congrArg Done.donePending hdone
  have hretired : o'.retired = o.retired := congrArg Done.retired hdone
  have hthread : ∀ {a l}, (∀ t ∈ l, t ∈ o.retired) →
      (Threaded (linkOf ram o') 0 a l ↔ Threaded (linkOf ram o) 0 a l) := fun hl =>
    threaded_congr fun t ht => hwords (.td t tdNextTd) (holds_link (h.retired_mem t (hl t ht))) rfl
  obtain ⟨waiting, hsplit, hwaiting, hiff⟩ := h.waits
  refine ⟨h.toQueues.congr hsame hretired fun p hp hlink _ => hwords p hp hlink, ⟨waiting, ?_, ?_, ?_⟩, ?_⟩
  · rw [hretired, hsplit]
  · rw [hqueue]
    refine (hthread fun t ht => ?_).mpr hwaiting
    rw [hsplit]
    exact List.mem_append_right _ (List.mem_reverse.mp ht)
  · rw [hpending]
    exact hiff
  · intro l hl
    obtain ⟨hne, hmem, hlast⟩ := h.last l hl
    rw [hsame.hcca, hretired]
    refine ⟨hne, hmem, ?_⟩
    have hhead := hwords (.hcca hccaDoneHead) ⟨hne, by decide, UInt32.le_refl _⟩
      (by show hccaDoneHead ≠ hccaFrameNumber; decide)
    simp only [Place.addr] at hhead
    rw [hhead]
    exact (hthread hmem).mpr hlast

/-! ## A descriptor -/

/-- A word of the descriptor that its transfers update. -/
def Own (q : Queue) (t a : UInt32) : Prop := a = t + tdCbp ∨ q.iso ∧ IsPsw t a

lemma Own.exists_place {hcca : UInt32} {q : Queue} {t a : UInt32} (h : Own q t a) (hq : q ∈ S) (ht : t ∈ q.tds) :
    ∃ off, a = t + off ∧ S.Holds hcca (.td t off) ∧ off ≠ tdFlags ∧ off ≠ tdNextTd := by
  rcases h with rfl | ⟨hiso, off, halign, hlow, hhigh, rfl⟩
  · exact ⟨tdCbp, rfl, holds_td hq ht (by decide), by decide, by decide⟩
  · refine ⟨off, rfl, ⟨q, hq, ht, halign, by rw [if_pos hiso]; exact hhigh⟩, ?_, ?_⟩ <;>
      · rintro rfl
        exact absurd hlow (by decide)

lemma read_of_moves {W : UInt32 → Prop} (hap : S.Apart ram o.hcca) (hm : Moves ram W o o')
    (hspared : S.Spared ram o.hcca o'.stored) {p : Place} (hp : S.Holds o.hcca p)
    (hW : ∀ a, W a → ∃ p', S.Holds o.hcca p' ∧ a = p'.addr o.hcca ∧ p' ≠ p) :
    ohciRead32 ram o' (p.addr o.hcca) = ohciRead32 ram o (p.addr o.hcca) := by
  obtain ⟨new, hnew, hwords⟩ := hm.words
  refine hwords _ (fun a ha => hspared a ?_ p hp) fun a ha hcell => ?_
  · rw [hnew]
    exact List.mem_append_left _ ha
  · obtain ⟨p', hp', rfl, hne⟩ := hW a ha
    exact hne (hap.inj p' p hp' hp hcell)

lemma Moves.suffix {W : UInt32 → Prop} (hm : Moves ram W o o') : o.stored <:+ o'.stored := by
  obtain ⟨new, hnew, -⟩ := hm.words
  exact ⟨new, hnew.symm⟩

/-! ## A retirement -/

variable (ram S) in
/-- One descriptor has been retired. -/
structure Retires (q : Queue) (t : UInt32) (o o' : Ohci κ D) : Prop where
  regs : o'.regs = o.regs
  words : ∀ p, S.Holds o.hcca p → (∀ off, p ≠ .td t off) → p ≠ .ed q.ed edHeadP →
    ohciRead32 ram o' (p.addr o.hcca) = ohciRead32 ram o (p.addr o.hcca)
  done : o'.done = ⟨t, true, o.retired ++ [t]⟩
  link : ohciRead32 ram o' (t + tdNextTd) = o.doneQueue
  head : ohciRead32 ram o' (q.ed + edHeadP) &&& edHeadMask = nextOf ram o t

lemma Queue.left_append (q : Queue) (retired : List UInt32) (t : UInt32) :
    q.left (retired ++ [t]) = (q.left retired).filter (· ≠ t) := by
  simp only [Queue.left, List.filter_filter]
  refine List.filter_congr fun x _ => ?_
  simp [and_comm]

lemma Queue.mem_of_left {q : Queue} {retired ts : List UInt32} {t : UInt32} (h : q.left retired = t :: ts) :
    t ∈ q.tds ∧ t ∉ retired := by
  have hmem : t ∈ q.left retired := h ▸ List.mem_cons_self
  simpa [Queue.left] using hmem

lemma Schedule.Apart.eq_of_ed {hcca : UInt32} (hap : S.Apart ram hcca) {q q' : Queue} (hq : q ∈ S) (hq' : q' ∈ S)
    (h : q'.ed = q.ed) : q' = q :=
  List.inj_on_of_nodup_map hap.eds_nodup hq' hq h

lemma Schedule.Apart.eq_of_mem {hcca : UInt32} (hap : S.Apart ram hcca) {q q' : Queue} {t : UInt32} (hq : q ∈ S)
    (hq' : q' ∈ S) (ht : t ∈ q.tds) (ht' : t ∈ q'.tds) : q' = q := by
  by_contra hne
  have hsymm : Std.Symm (Function.onFun List.Disjoint Queue.tds) := ⟨fun _ _ h => List.Disjoint.symm h⟩
  exact (List.nodup_flatMap.mp hap.tds_nodup).2.forall hq' hq hne ht' ht

lemma Schedule.Apart.left_nodup {hcca : UInt32} (hap : S.Apart ram hcca) {q : Queue} (hq : q ∈ S)
    (retired : List UInt32) : (q.left retired).Nodup :=
  ((List.nodup_flatMap.mp hap.tds_nodup).1 q hq).filter _

lemma left_retired {hcca : UInt32} (hap : S.Apart ram hcca) {q q' : Queue} {retired ts : List UInt32} {t : UInt32}
    (hq : q ∈ S) (hq' : q' ∈ S) (hleft : q.left retired = t :: ts) :
    q'.left (retired ++ [t]) = if q' = q then ts else q'.left retired := by
  rw [Queue.left_append]
  split
  next heq =>
    subst heq
    have hnodup := hap.left_nodup hq retired
    rw [hleft, List.nodup_cons] at hnodup
    rw [hleft, List.filter_cons_of_neg (by simp), List.filter_eq_self]
    intro x hx
    exact decide_eq_true fun heq => hnodup.1 (heq ▸ hx)
  next hne =>
    rw [List.filter_eq_self]
    intro x hx
    refine decide_eq_true fun heq => hne ?_
    subst heq
    exact hap.eq_of_mem hq hq' (Queue.mem_of_left hleft).1 (List.mem_filter.mp hx).1

/-- **The step.**  Retiring the first descriptor of a queue leaves a schedule one further. -/
lemma Good.retires {q : Queue} {t : UInt32} {ts : List UInt32} (h : Good ram S reported last o)
    (hap : S.Apart ram o.hcca) (hq : q ∈ S) (hleft : q.left o.retired = t :: ts)
    (hr : Retires ram S q t o o') : Good ram S reported last o' := by
  obtain ⟨ht, hnew⟩ := Queue.mem_of_left hleft
  have hhcca : o'.hcca = o.hcca := congrArg Regs.hcca hr.regs
  have hqueue : o'.doneQueue = t := congrArg Done.doneQueue hr.done
  have hpending : o'.donePending = true := congrArg Done.donePending hr.done
  have hretired : o'.retired = o.retired ++ [t] := congrArg Done.retired hr.done
  have hed : ∀ e ∈ S.eds, ∀ off, off &&& 3 = 0 ∧ off ≤ 12 → off ≠ edHeadP →
      ohciRead32 ram o' (e + off) = ohciRead32 ram o (e + off) := fun e he off hoff hne =>
    hr.words (.ed e off) (holds_ed he hoff) (fun _ => nofun) fun heq => hne (Place.ed.inj heq).2
  have hlink : ∀ x ∈ S.tds, x ≠ t → ohciRead32 ram o' (x + tdNextTd) = ohciRead32 ram o (x + tdNextTd) :=
    fun x hx hne => hr.words (.td x tdNextTd) (holds_link hx) (fun _ heq => hne (Place.td.inj heq).1) nofun
  have hcomm : ∀ off, S.Holds o.hcca (.hcca off) →
      ohciRead32 ram o' (o.hcca + off) = ohciRead32 ram o (o.hcca + off) := fun off hoff =>
    hr.words (.hcca off) hoff (fun _ => nofun) nofun
  -- lists of retired descriptors do not go through the one that is being retired
  have hthread : ∀ {a l}, (∀ x ∈ l, x ∈ o.retired) →
      (Threaded (linkOf ram o') 0 a l ↔ Threaded (linkOf ram o) 0 a l) := fun hl =>
    threaded_congr fun x hx => hlink x (h.retired_mem x (hl x hx)) fun heq => hnew (heq ▸ hl x hx)
  obtain ⟨waiting, hsplit, hwaiting, -⟩ := h.waits
  have hwaits : ∀ x ∈ waiting.reverse, x ∈ o.retired := fun x hx => by
    rw [hsplit]
    exact List.mem_append_right _ (List.mem_reverse.mp hx)
  refine ⟨⟨h.listed.congr (sameLists_of_regs hr.regs) (fun off hoff _ _ => hcomm off hoff)
    fun e he => hed e he edNextEd (by decide) (by decide), ?_, ?_, ?_, ?_⟩, ⟨waiting ++ [t], ?_, ?_, ?_⟩, ?_⟩
  · intro q' hq'
    rw [hed q'.ed (mem_eds hq') edFlags (by decide) (by decide)]
    exact h.iso q' hq'
  · intro q' hq'
    rw [hed q'.ed (mem_eds hq') edTailP (by decide) (by decide), hretired, left_retired hap hq hq' hleft]
    have hthreaded := h.queue q' hq'
    split
    next heq =>
      subst heq
      rw [hleft, threaded_cons] at hthreaded
      have hnodup := hap.left_nodup hq o.retired
      rw [hleft, List.nodup_cons] at hnodup
      rw [hr.head]
      refine (threaded_congr fun x hx => ?_).mpr hthreaded.2.2
      have hmem : x ∈ q'.left o.retired := hleft ▸ List.mem_cons_of_mem t hx
      exact congrArg (· &&& edHeadMask)
        (hlink x (mem_tds hq (List.mem_filter.mp hmem).1) fun heq => hnodup.1 (heq ▸ hx))
    next hne =>
      have hhead := hr.words (.ed q'.ed edHeadP) (holds_ed (mem_eds hq') (by decide)) (fun _ => nofun)
        fun heq => hne (hap.eq_of_ed hq hq' (Place.ed.inj heq).1)
      simp only [Place.addr] at hhead
      rw [hhead]
      refine (threaded_congr fun x hx => ?_).mpr hthreaded
      have hmem := (List.mem_filter.mp hx).1
      exact congrArg (· &&& edHeadMask)
        (hlink x (mem_tds hq' hmem) fun heq => hne (hap.eq_of_mem hq hq' ht (heq ▸ hmem)))
  · intro x hx
    rw [hretired, List.mem_append, List.mem_singleton] at hx
    rcases hx with hx | rfl
    · exact h.retired_mem x hx
    · exact mem_tds hq ht
  · rw [hretired]
    exact List.nodup_append.mpr ⟨h.nodup, List.nodup_singleton t, fun x hx y hy => by
      rw [List.mem_singleton.mp hy]
      exact fun heq => hnew (heq ▸ hx)⟩
  · rw [hretired, hsplit, List.append_assoc]
  · rw [hqueue, List.reverse_append, List.reverse_singleton, List.singleton_append]
    refine threaded_push hwaiting hr.link (fun x hx => ?_) fun heq => hap.nonzero (heq ▸ mem_tds hq ht)
    exact hlink x (h.retired_mem x (hwaits x hx)) fun heq => hnew (heq ▸ hwaits x hx)
  · simp [hpending]
  · intro l hl
    obtain ⟨hne, hmem, hlast⟩ := h.last l hl
    rw [hhcca, hretired, hcomm hccaDoneHead ⟨hne, by decide, UInt32.le_refl _⟩]
    exact ⟨hne, fun x hx => List.mem_append_left [t] (hmem x hx), (hthread hmem).mpr hlast⟩

lemma Retires.kept {q : Queue} {t : UInt32} (hr : Retires ram S q t o o') : Kept ram S o o' := by
  have hretired : o'.retired = o.retired ++ [t] := congrArg Done.retired hr.done
  intro q' hq' x hx hleft hfuture off hoff
  refine hr.words (.td x off) hoff (fun off' heq => hleft ?_) nofun
  rw [hretired, (Place.td.inj heq).1]
  exact List.mem_append_right _ List.mem_cons_self

lemma Good.stays {q : Queue} {t : UInt32} (h : Good ram S reported last o) (hap : S.Apart ram o.hcca) (hq : q ∈ S)
    (ht : t ∈ q.tds) (hm : Moves ram (Own q t) o o') (hdone : o'.done = o.done)
    (hfuture : (q.iso → 0x8000 ≤ itdIndex o (ohciRead32 ram o (t + itdFlags))) → MovesData ram o o')
    (hspared : S.Spared ram o.hcca o'.stored) : Good ram S reported last o' ∧ Progress ram S o o' := by
  have hretired : o'.retired = o.retired := congrArg Done.retired hdone
  have hwords : ∀ p, S.Holds o.hcca p → (∀ off, off ≠ tdFlags → off ≠ tdNextTd → p ≠ .td t off) →
      ohciRead32 ram o' (p.addr o.hcca) = ohciRead32 ram o (p.addr o.hcca) := by
    intro p hp hne
    refine read_of_moves hap hm hspared hp fun a ha => ?_
    obtain ⟨off, rfl, hoff, hflags, hlink⟩ := ha.exists_place hq ht
    exact ⟨.td t off, hoff, rfl, fun heq => hne off hflags hlink heq.symm⟩
  refine ⟨h.congr (sameLists_of_regs hm.regs) hdone fun p hp hlink => hwords p hp ?_, hm.regs, hm.suffix, hretired ▸ List.prefix_rfl, ?_⟩
  · rintro off - hne rfl
    exact hne hlink
  · intro q' hq' x hx hleft hfar off hoff
    by_cases hxt : x = t
    · subst hxt
      have hsame : q' = q := hap.eq_of_mem hq hq' ht hx
      subst hsame
      have hflags := hwords (.td x itdFlags) (holds_td hq hx (by decide)) fun off' hne _ heq =>
        hne (Place.td.inj heq).2.symm
      simp only [Place.addr] at hflags
      have hdata := hfuture fun hi => by
        have hfm : o'.fmNumber = o.fmNumber := congrArg Regs.fmNumber hm.regs
        have hindex := hfar hi
        rw [hflags, itdIndex, hfm] at hindex
        exact hindex
      exact read_of_moves hap hdata.1 hspared hoff fun a ha => ha.elim
    · exact hwords (.td x off) hoff fun off' _ _ heq => hxt (Place.td.inj heq).1

variable [DecidableEq κ]

lemma runDescriptor_cases {q : Queue} {flags t : UInt32} (hiso : flags &&& edFormatIso ≠ 0 ↔ q.iso) :
    (∃ o', runDescriptor ram o q.ed flags t = (false, o') ∧ Moves ram (Own q t) o o' ∧ o'.done = o.done ∧
        ((q.iso → 0x8000 ≤ itdIndex o (ohciRead32 ram o (t + itdFlags))) → MovesData ram o o')) ∨
      ∃ o', runDescriptor ram o q.ed flags t = (true, o') ∧ Finishes ram (Own q t) q.ed t o o' := by
  unfold runDescriptor
  split
  next hset =>
    have hq : q.iso = true := hiso.mp hset
    have hown : ∀ a, IsPsw t a → Own q t a := fun a ha => Or.inr ⟨hq, ha⟩
    rcases ohciRunItd_cases ram (o := o) q.ed flags t with ⟨o', heq, hm, hdone, hfar⟩ | ⟨o', heq, o₁, hm, hends⟩
    · refine Or.inl ⟨o', heq, hm.mono hown, hdone, fun hfuture => ?_⟩
      rw [hfar (hfuture hq)]
      exact ⟨.rfl', rfl⟩
    · exact Or.inr ⟨o', heq, o₁, hm.mono hown, hends⟩
  next hclear =>
    rcases ohciRunTd_cases ram (o := o) q.ed flags t with ⟨o', heq, hm, hdone⟩ | ⟨o', heq, o₁, hm, hends⟩
    · exact Or.inl ⟨o', heq, hm.mono fun _ ha => ha.elim, hdone, fun _ => ⟨hm, hdone⟩⟩
    · exact Or.inr ⟨o', heq, o₁, hm.mono fun _ ha => Or.inl ha, hends⟩

lemma headMask_or (x h w : UInt32) :
    ((x &&& edHeadMask) ||| (h &&& edToggleCarry) ||| (w &&& edHalted)) &&& edHeadMask = x &&& edHeadMask := by
  have hmask : edHeadMask &&& edHeadMask = edHeadMask := by decide
  have htoggle : edToggleCarry &&& edHeadMask = 0 := by decide
  have hhalted : edHalted &&& edHeadMask = 0 := by decide
  rw [Masks.or_and, Masks.or_and, UInt32.and_assoc, UInt32.and_assoc, UInt32.and_assoc, hmask, htoggle, hhalted,
    UInt32.and_zero, UInt32.and_zero, UInt32.or_zero, UInt32.or_zero]

lemma Finishes.retires {q : Queue} {t : UInt32} (h : Finishes ram (Own q t) q.ed t o o')
    (hap : S.Apart ram o.hcca) (hq : q ∈ S) (ht : t ∈ q.tds) (hspared : S.Spared ram o.hcca o'.stored)
    (head w : UInt32) :
    Retires ram S q t o (ohciWrite32 ram o' (q.ed + edHeadP)
      (nextOf ram o t ||| (head &&& edToggleCarry) ||| (w &&& edHalted))) := by
  obtain ⟨o₁, hm, hdone, hends⟩ := h
  have hlinkPlace : S.Holds o.hcca (.td t tdNextTd) := holds_td hq ht (by decide)
  have hheadPlace : S.Holds o.hcca (.ed q.ed edHeadP) := holds_ed (mem_eds hq) (by decide)
  have hne : ram.cell (q.ed + edHeadP) ≠ ram.cell (t + tdNextTd) := fun heq =>
    nomatch hap.inj (.ed q.ed edHeadP) (.td t tdNextTd) hheadPlace hlinkPlace heq
  obtain ⟨hm', hdone', hlink⟩ := hends.spec ram (hap.inRam _ hlinkPlace) hne
  have hspared₁ := hspared.of_suffix hm'.suffix
  refine ⟨?_, ?_, ?_, ?_, ?_⟩
  · rw [regs_write, hm'.regs, hm.regs]
  · intro p hp htd hed
    have hwrite : ram.cell (q.ed + edHeadP) ≠ ram.cell (p.addr o.hcca) := fun heq =>
      hed (hap.inj (.ed q.ed edHeadP) p hheadPlace hp heq).symm
    have hhcca : o₁.hcca = o.hcca := congrArg Regs.hcca hm.regs
    rw [ohciRead32_write_of_ne ram hwrite]
    have hends' := read_of_moves (o := o₁) (hhcca ▸ hap) hm' (hhcca ▸ hspared) (p := p) (hhcca ▸ hp) ?_
    · rw [hhcca] at hends'
      rw [hends']
      refine read_of_moves hap hm hspared₁ hp fun a ha => ?_
      obtain ⟨off, rfl, hoff, -, -⟩ := ha.exists_place hq ht
      exact ⟨.td t off, hoff, rfl, fun heq => htd off heq.symm⟩
    · rintro a ((rfl | rfl) | rfl)
      · exact ⟨.td t tdFlags, holds_td hq ht (by decide), rfl, fun heq => htd tdFlags heq.symm⟩
      · exact ⟨.td t tdNextTd, holds_td hq ht (by decide), rfl, fun heq => htd tdNextTd heq.symm⟩
      · exact ⟨.ed q.ed edHeadP, holds_ed (mem_eds hq) (by decide), rfl, fun heq => hed heq.symm⟩
  · rw [done_write, hdone', show o₁.retired = o.retired from congrArg Done.retired hdone]
  · rw [ohciRead32_write_of_ne ram hne, hlink, show o₁.doneQueue = o.doneQueue from congrArg Done.doneQueue hdone]
  · have hram : ram.cell (q.ed + edHeadP) ≠ none := hap.inRam _ hheadPlace
    rw [ohciRead32_write_self ram hram]
    exact headMask_or _ _ _

/-! ## Queues and lists -/

variable {q : Queue} {flags tail : UInt32}

lemma Finishes.suffix {W : UInt32 → Prop} {e t : UInt32} (h : Finishes ram W e t o o') : o.stored <:+ o'.stored := by
  obtain ⟨o₁, hm, -, cc, rfl | rfl⟩ := h
  · exact hm.suffix.trans (tdRetire_moves ram o₁ t cc).suffix
  · rw [tdFail, stored_write]
    exact hm.suffix.trans (tdRetire_moves ram o₁ t cc).suffix

variable (ram) in
lemma stored_runDescriptor (o : Ohci κ D) (e flags t : UInt32) :
    o.stored <:+ (runDescriptor ram o e flags t).2.stored := by
  unfold runDescriptor
  split
  · rcases ohciRunItd_cases ram (o := o) e flags t with ⟨o', heq, hm, -⟩ | ⟨o', heq, hfinish⟩
    · rw [heq]
      exact hm.suffix
    · rw [heq]
      exact hfinish.suffix
  · rcases ohciRunTd_cases ram (o := o) e flags t with ⟨o', heq, hm, -⟩ | ⟨o', heq, hfinish⟩
    · rw [heq]
      exact hm.suffix
    · rw [heq]
      exact hfinish.suffix

lemma stored_runQueue (e flags tail : UInt32) (guard : Nat) (o : Ohci κ D) (head : UInt32) :
    o.stored <:+ (runQueue ram e flags tail guard o head).stored := by
  induction guard generalizing o head with
  | zero => exact List.suffix_rfl
  | succ guard ih =>
    have hturn := stored_runDescriptor ram o e flags (head &&& edHeadMask)
    unfold runQueue
    dsimp only
    split
    · exact List.suffix_rfl
    split
    next o' heq =>
      rw [heq] at hturn
      exact hturn
    next o' heq =>
      rw [heq] at hturn
      split
      · rw [stored_write]
        exact hturn
      · refine hturn.trans ?_
        rw [← stored_write ram (o := o') (e + edHeadP)]
        exact ih _ _

lemma Good.turn (h : Good ram S reported last o) (hap : S.Apart ram o.hcca) (hq : q ∈ S)
    (hiso : flags &&& edFormatIso ≠ 0 ↔ q.iso) {t : UInt32} {ts : List UInt32}
    (hleft : q.left o.retired = t :: ts) :
    (∃ o', runDescriptor ram o q.ed flags t = (false, o') ∧
        (S.Spared ram o.hcca o'.stored → Good ram S reported last o' ∧ Progress ram S o o')) ∨
      ∃ o', runDescriptor ram o q.ed flags t = (true, o') ∧
        (S.Spared ram o.hcca o'.stored → ∀ head w,
          let o₂ := ohciWrite32 ram o' (q.ed + edHeadP)
            (nextOf ram o t ||| (head &&& edToggleCarry) ||| (w &&& edHalted))
          Good ram S reported last o₂ ∧ Progress ram S o o₂ ∧
            ohciRead32 ram o₂ (q.ed + edTailP) = ohciRead32 ram o (q.ed + edTailP)) := by
  obtain ⟨ht, -⟩ := Queue.mem_of_left hleft
  rcases runDescriptor_cases (o := o) (t := t) hiso with ⟨o', heq, hm, hdone, hfuture⟩ | ⟨o', heq, hfinish⟩
  · exact Or.inl ⟨o', heq, fun hspared => h.stays hap hq ht hm hdone hfuture hspared⟩
  · refine Or.inr ⟨o', heq, fun hspared head w => ?_⟩
    have hr := hfinish.retires hap hq ht hspared head w
    refine ⟨h.retires hap hq hleft hr, ⟨hr.regs, ?_, ?_, hr.kept⟩, ?_⟩
    · rw [stored_write]
      exact hfinish.suffix
    · rw [show Ohci.retired _ = _ from congrArg Done.retired hr.done]
      exact List.prefix_append _ _
    · exact hr.words (.ed q.ed edTailP) (holds_ed (mem_eds hq) (by decide)) (fun _ => nofun)
        fun heq => absurd (Place.ed.inj heq).2 (by decide)

theorem good_runQueue (hq : q ∈ S) (hiso : flags &&& edFormatIso ≠ 0 ↔ q.iso) (guard : Nat) (o : Ohci κ D)
    (head : UInt32) (h : Good ram S reported last o) (hap : S.Apart ram o.hcca)
    (hhead : head = ohciRead32 ram o (q.ed + edHeadP))
    (htail : tail = ohciRead32 ram o (q.ed + edTailP) &&& edHeadMask)
    (hspared : S.Spared ram o.hcca (runQueue ram q.ed flags tail guard o head).stored) :
    Good ram S reported last (runQueue ram q.ed flags tail guard o head) ∧
      Progress ram S o (runQueue ram q.ed flags tail guard o head) := by
  induction guard generalizing o head with
  | zero => exact ⟨h, .rfl'⟩
  | succ guard ih =>
    unfold runQueue at hspared ⊢
    dsimp only at hspared ⊢
    split at hspared
    next hstop =>
      rw [if_pos hstop]
      exact ⟨h, .rfl'⟩
    next hgo =>
      rw [if_neg hgo]
      have hqueue := h.queue q hq
      rw [← hhead, ← htail] at hqueue
      obtain ⟨ts, hleft, -⟩ := hqueue.exists_cons fun heq => hgo (Or.inl heq)
      rcases h.turn hap hq hiso hleft with ⟨o', heq, hstays⟩ | ⟨o', heq, hretires⟩
      · rw [heq] at hspared ⊢
        exact hstays hspared
      · rw [heq] at hspared ⊢
        dsimp only at hspared ⊢
        split at hspared
        next hhalted =>
          rw [if_pos hhalted]
          rw [stored_write] at hspared
          obtain ⟨hgood, hprogress, -⟩ := hretires hspared head (ohciRead32 ram o' (q.ed + edHeadP))
          exact ⟨hgood, hprogress⟩
        next hon =>
          rw [if_neg hon]
          have hspared' := hspared.of_suffix (stored_runQueue _ _ _ _ _ _)
          rw [stored_write] at hspared'
          obtain ⟨hgood, hprogress, hsame⟩ := hretires hspared' head (ohciRead32 ram o' (q.ed + edHeadP))
          have hram : ram.cell (q.ed + edHeadP) ≠ none :=
            hap.inRam (.ed q.ed edHeadP) (holds_ed (mem_eds hq) (by decide))
          obtain ⟨hgood', hprogress'⟩ := ih _ _ hgood (by rw [hprogress.hcca]; exact hap)
            (ohciRead32_write_self ram hram).symm (by rw [htail]; exact congrArg (· &&& edHeadMask) hsame.symm)
            (by rw [hprogress.hcca]; exact hspared)
          exact ⟨hgood', hprogress.trans hprogress'⟩

theorem good_runEd (hq : q ∈ S) (h : Good ram S reported last o) (hap : S.Apart ram o.hcca)
    (hspared : S.Spared ram o.hcca (ohciRunEd ram o q.ed).stored) :
    Good ram S reported last (ohciRunEd ram o q.ed) ∧ Progress ram S o (ohciRunEd ram o q.ed) := by
  unfold ohciRunEd at hspared ⊢
  dsimp only at hspared ⊢
  split at hspared
  next hskip =>
    rw [if_pos hskip]
    exact ⟨h, .rfl'⟩
  next hrun =>
    rw [if_neg hrun]
    exact good_runQueue hq (h.iso q hq) 64 o _ h hap rfl rfl hspared

lemma stored_runEd (o : Ohci κ D) (e : UInt32) : o.stored <:+ (ohciRunEd ram o e).stored := by
  unfold ohciRunEd
  dsimp only
  split
  · exact List.suffix_rfl
  · exact stored_runQueue _ _ _ _ _ _

lemma stored_runEds (guard : Nat) (o : Ohci κ D) (e : UInt32) : o.stored <:+ (runEds ram guard o e).stored := by
  induction guard generalizing o e with
  | zero => exact List.suffix_rfl
  | succ guard ih =>
    unfold runEds
    split
    · exact List.suffix_rfl
    · exact (stored_runEd o e).trans (ih _ _)

theorem good_runEds (guard : Nat) (o : Ohci κ D) (e : UInt32) (he : e ∈ 0 :: S.eds)
    (h : Good ram S reported last o) (hap : S.Apart ram o.hcca)
    (hspared : S.Spared ram o.hcca (runEds ram guard o e).stored) :
    Good ram S reported last (runEds ram guard o e) ∧ Progress ram S o (runEds ram guard o e) := by
  induction guard generalizing o e with
  | zero => exact ⟨h, .rfl'⟩
  | succ guard ih =>
    unfold runEds at hspared ⊢
    split at hspared
    next hzero =>
      rw [if_pos hzero]
      exact ⟨h, .rfl'⟩
    next hne =>
      rw [if_neg hne]
      have hmem : e ∈ S.eds := (List.mem_cons.mp he).resolve_left hne
      obtain ⟨q, hq, rfl⟩ := List.mem_map.mp hmem
      obtain ⟨hgood, hprogress⟩ := good_runEd hq h hap (hspared.of_suffix (stored_runEds _ _ _))
      obtain ⟨hgood', hprogress'⟩ := ih _ _ (h.listed.next q.ed hmem) hgood
        (by rw [hprogress.hcca]; exact hap) (by rw [hprogress.hcca]; exact hspared)
      exact ⟨hgood', hprogress.trans hprogress'⟩

end State

end RpcEmu.Usb
