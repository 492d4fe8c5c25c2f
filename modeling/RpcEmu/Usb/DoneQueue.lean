import RpcEmu.Usb.Schedule
import RpcEmu.Lib.Runs

/-!
# The done lists

A driver lays out a schedule and starts the controller.  From then on frames go by, devices come and go, and
the driver acknowledges done lists when it likes.  Each list that is published is read as the driver would
read it, from the communication area.

* **Soundness.**  What has been published, each list turned round, is what was retired, in that order and
  each descriptor once; what is missing is what waits for the driver's acknowledgement.
* **Completeness.**  A frame that finds the last list acknowledged publishes everything there is.
* **Persistence.**  A published list can be read until the next one is.

Where the data of the transfers goes is up to the buffers the driver has named: that none of it lands on the
schedule itself is asked of the run.
-/

namespace RpcEmu.Usb

open Threads Runs

section DoneQueue

variable {κ D : Type} {ram : Ram κ} {S : Schedule} {reported : List UInt32}
  {last : Option (List UInt32)} {o o' o'' : Ohci κ D}

/-! ## What does not go near the schedule -/

/-- Memory, lists and the done queue are the same. -/
structure Still (o o' : Ohci κ D) : Prop where
  mem : o'.mem = o.mem
  stored : o'.stored = o.stored
  done : o'.done = o.done
  lists : SameLists o o'
  wdh : o'.interruptStatus &&& ohciWdh = o.interruptStatus &&& ohciWdh

lemma Still.rfl' : Still o o := ⟨rfl, rfl, rfl, ⟨rfl, rfl, rfl, rfl, rfl⟩, rfl⟩

lemma Still.trans (h : Still o o') (h' : Still o' o'') : Still o o'' :=
  ⟨h'.mem.trans h.mem, h'.stored.trans h.stored, h'.done.trans h.done,
    ⟨h'.lists.control.trans h.lists.control, h'.lists.commandStatus.trans h.lists.commandStatus,
      h'.lists.hcca.trans h.lists.hcca, h'.lists.controlHeadEd.trans h.lists.controlHeadEd,
      h'.lists.bulkHeadEd.trans h.lists.bulkHeadEd⟩, h'.wdh.trans h.wdh⟩

lemma or_and_of_disjoint {x b m : UInt32} (h : b &&& m = 0) : (x ||| b) &&& m = x &&& m := by
  rw [Masks.or_and, h, UInt32.or_zero]

lemma still_rootHubChanged (o : Ohci κ D) : Still o (usbOhciRootHubChanged o) := by
  unfold usbOhciRootHubChanged
  split
  · refine ⟨rfl, rfl, rfl, ⟨rfl, rfl, rfl, rfl, rfl⟩, ?_⟩
    exact or_and_of_disjoint (by decide)
  · refine ⟨rfl, rfl, rfl, ⟨rfl, rfl, rfl, rfl, rfl⟩, ?_⟩
    show o.interruptStatus &&& ~~~ohciRhsc &&& ohciWdh = o.interruptStatus &&& ohciWdh
    rw [UInt32.and_assoc, show ~~~ohciRhsc &&& ohciWdh = ohciWdh from by decide]

lemma still_detach (o : Ohci κ D) (port : Fin 4) : Still o (usbOhciDetach o port) := by
  unfold usbOhciDetach
  split
  · exact .rfl'
  · refine Still.trans ?_ (still_rootHubChanged _)
    exact ⟨rfl, rfl, rfl, ⟨rfl, rfl, rfl, rfl, rfl⟩, rfl⟩

lemma still_attach (o : Ohci κ D) (port : Fin 4) (dev : UsbDevice D) : Still o (usbOhciAttach o port dev) := by
  unfold usbOhciAttach
  split
  · exact .rfl'
  · exact ⟨rfl, rfl, rfl, ⟨rfl, rfl, rfl, rfl, rfl⟩, rfl⟩

lemma still_startFrame (host : UsbHost D) (o : Ohci κ D) : Still o (startFrame host o) := by
  have hports : ∀ (f : Ohci κ D → Fin 4 → Ohci κ D), (∀ o port, Still o (f o port)) →
      ∀ (ports : List (Fin 4)) (o : Ohci κ D), Still o (ports.foldl f o) := by
    intro f hf ports
    induction ports with
    | nil => exact fun o => .rfl'
    | cons port ports ih => exact fun o => (hf o port).trans (ih _)
  refine Still.trans ?_ (hports _ (fun o port => ?_) _ _)
  · exact ⟨rfl, rfl, rfl, ⟨rfl, rfl, rfl, rfl, rfl⟩, rfl⟩
  · split
    · split
      · exact still_detach o port
      · exact .rfl'
    · exact .rfl'

lemma still_settle (o : Ohci κ D) : Still o (settle o) := by
  have hcount : Still o { o with rhDebounce := o.rhDebounce - 1 } :=
    ⟨rfl, rfl, rfl, ⟨rfl, rfl, rfl, rfl, rfl⟩, rfl⟩
  unfold settle
  split
  · dsimp only
    split
    · exact hcount.trans (still_rootHubChanged _)
    · exact hcount
  · exact .rfl'

lemma Good.still (h : Good ram S reported last o) (hs : Still o o') : Good ram S reported last o' :=
  h.congr hs.lists hs.done fun p _ _ => by simp only [ohciRead32, hs.mem]

lemma Kept.of_still (h : Kept ram S o' o'') (hs : Still o o') : Kept ram S o o'' := by
  intro q hq t ht hleft hfuture off hoff
  rw [h q hq t ht hleft hfuture off (hs.lists.hcca ▸ hoff)]
  simp only [ohciRead32, hs.mem]

lemma Good.thread_length (h : Good ram S reported last o) {l : List UInt32} (hl : ∀ t ∈ l, t ∈ o.retired)
    (hnodup : l.Nodup) : l.length ≤ S.tds.length :=
  (List.subperm_of_subset hnodup fun t ht => h.retired_mem t (hl t ht)).length_le

lemma still_raiseSf (o : Ohci κ D) : Still o (usbOhciRaise o ohciSf) := by
  refine ⟨rfl, rfl, rfl, ⟨rfl, rfl, rfl, rfl, rfl⟩, ?_⟩
  exact or_and_of_disjoint (by decide)

lemma Kept.raiseSf (h : Kept ram S o o') : Kept ram S o (usbOhciRaise o' ohciSf) := h

/-! ## The stages of a frame -/

variable [DecidableEq κ]

lemma good_tellFrame (h : Good ram S reported last o) (hap : S.Apart ram o.hcca)
    (hspared : S.Spared ram o.hcca o.stored) :
    Good ram S reported last (tellFrame ram o) ∧ Progress ram S o (tellFrame ram o) := by
  unfold tellFrame
  split
  next hne =>
    have hplace : S.Holds o.hcca (.hcca hccaFrameNumber) := ⟨hne, by decide, by decide⟩
    have hm := moves_write ram (o := o) (v := o.fmNumber) (W := (· = o.hcca + hccaFrameNumber)) rfl
    have hwords : ∀ p, S.Holds o.hcca p → p ≠ .hcca hccaFrameNumber →
        ohciRead32 ram (ohciWrite32 ram o (o.hcca + hccaFrameNumber) o.fmNumber) (p.addr o.hcca) =
          ohciRead32 ram o (p.addr o.hcca) := fun p hp hframe =>
      read_of_moves hap hm (by rw [stored_write]; exact hspared) hp fun a ha =>
        ⟨.hcca hccaFrameNumber, hplace, ha, fun heq => hframe heq.symm⟩
    refine ⟨h.congr (sameLists_of_regs hm.regs) (done_write ram _ _) fun p hp hlink => hwords p hp ?_, hm.regs,
      hm.suffix, ?_, ?_⟩
    · rintro rfl
      exact hlink rfl
    · rw [show Ohci.retired _ = _ from congrArg Done.retired (done_write ram _ _)]
      exact List.prefix_rfl
    · exact fun q hq t ht hleft hfuture off hoff => hwords (.td t off) hoff nofun
  · exact ⟨h, .rfl'⟩

lemma stored_lists (o : Ohci κ D) : o.stored <:+ (runPeriodic ram o).stored ∧
    o.stored <:+ (runControlList ram o).stored ∧ o.stored <:+ (runBulkList ram o).stored := by
  unfold runPeriodic runControlList runBulkList ohciRunList
  refine ⟨?_, ?_, ?_⟩ <;>
    · split
      · exact stored_runEds _ _ _
      · exact List.suffix_rfl

lemma good_runPeriodic (h : Good ram S reported last o) (hap : S.Apart ram o.hcca)
    (hspared : S.Spared ram o.hcca (runPeriodic ram o).stored) :
    Good ram S reported last (runPeriodic ram o) ∧ Progress ram S o (runPeriodic ram o) := by
  unfold runPeriodic at hspared ⊢
  split at hspared
  next hple =>
    rw [if_pos hple]
    have hlt : o.fmNumber &&& 31 < 32 := by
      rw [UInt32.lt_iff_toNat_lt, UInt32.toNat_and]
      exact Nat.lt_of_le_of_lt Nat.and_le_right (by decide)
    exact good_runEds 128 o _ (h.listed.table hple.1 hple.2 _ hlt) h hap hspared
  next hoff =>
    rw [if_neg hoff]
    exact ⟨h, .rfl'⟩

lemma good_runControlList (h : Good ram S reported last o) (hap : S.Apart ram o.hcca)
    (hspared : S.Spared ram o.hcca (runControlList ram o).stored) :
    Good ram S reported last (runControlList ram o) ∧ Progress ram S o (runControlList ram o) := by
  unfold runControlList at hspared ⊢
  split at hspared
  next hcle =>
    rw [if_pos hcle]
    exact good_runEds 128 o _ (h.listed.controlList hcle.1 hcle.2) h hap hspared
  next hoff =>
    rw [if_neg hoff]
    exact ⟨h, .rfl'⟩

lemma good_runBulkList (h : Good ram S reported last o) (hap : S.Apart ram o.hcca)
    (hspared : S.Spared ram o.hcca (runBulkList ram o).stored) :
    Good ram S reported last (runBulkList ram o) ∧ Progress ram S o (runBulkList ram o) := by
  unfold runBulkList at hspared ⊢
  split at hspared
  next hble =>
    rw [if_pos hble]
    exact good_runEds 128 o _ (h.listed.bulkList hble.1 hble.2) h hap hspared
  next hoff =>
    rw [if_neg hoff]
    exact ⟨h, .rfl'⟩

theorem good_lists (h : Good ram S reported last o) (hap : S.Apart ram o.hcca)
    (hspared : S.Spared ram o.hcca (runBulkList ram (runControlList ram (runPeriodic ram (tellFrame ram o)))).stored) :
    Good ram S reported last (runBulkList ram (runControlList ram (runPeriodic ram (tellFrame ram o)))) ∧
      Progress ram S o (runBulkList ram (runControlList ram (runPeriodic ram (tellFrame ram o)))) := by
  have hspared₃ := hspared.of_suffix (stored_lists _).2.2
  have hspared₂ := hspared₃.of_suffix (stored_lists _).2.1
  have hspared₁ := hspared₂.of_suffix (stored_lists _).1
  have htold : (tellFrame ram o).stored = o.stored := by
    unfold tellFrame
    split
    · exact stored_write ram _ _
    · rfl
  obtain ⟨h₁, p₁⟩ := good_tellFrame h hap (htold ▸ hspared₁)
  obtain ⟨h₂, p₂⟩ := good_runPeriodic h₁ (p₁.hcca.symm ▸ hap) (p₁.hcca.symm ▸ hspared₂)
  have p₂ := p₁.trans p₂
  obtain ⟨h₃, p₃⟩ := good_runControlList h₂ (p₂.hcca.symm ▸ hap) (p₂.hcca.symm ▸ hspared₃)
  have p₃ := p₂.trans p₃
  obtain ⟨h₄, p₄⟩ := good_runBulkList h₃ (p₃.hcca.symm ▸ hap) (p₃.hcca.symm ▸ hspared)
  exact ⟨h₄, p₃.trans p₄⟩

/-! ## Publication -/

def publishes (o o' : Ohci κ D) : Bool :=
  o.interruptStatus &&& ohciWdh == 0 && o'.interruptStatus &&& ohciWdh != 0

lemma good_writebackDone (h : Good ram S reported last o) (hap : S.Apart ram o.hcca)
    (hspared : S.Spared ram o.hcca o.stored) :
    (ohciWritebackDone ram o = o ∧ (o.hcca ≠ 0 → o.interruptStatus &&& ohciWdh = 0 → o.retired = reported)) ∨
      o.interruptStatus &&& ohciWdh = 0 ∧ (ohciWritebackDone ram o).interruptStatus &&& ohciWdh ≠ 0 ∧
        (ohciWritebackDone ram o).hcca = o.hcca ∧ (ohciWritebackDone ram o).retired = o.retired ∧
        (ohciWritebackDone ram o).fmNumber = o.fmNumber ∧ Kept ram S o (ohciWritebackDone ram o) ∧
        ∃ waiting, o.retired = reported ++ waiting ∧
          Good ram S o.retired (some waiting.reverse) (ohciWritebackDone ram o) := by
  obtain ⟨waiting, hsplit, hwaiting, hiff⟩ := h.waits
  unfold ohciWritebackDone
  split
  next hnot =>
    refine Or.inl ⟨rfl, fun hne hclear => ?_⟩
    simp only [hne, hclear, Bool.or_eq_true, Bool.not_eq_true', decide_eq_true_eq, ne_eq, not_true_eq_false,
      or_false] at hnot
    have hnil : waiting = [] := by
      by_contra hw
      rw [hiff.mpr hw] at hnot
      exact Bool.noConfusion hnot
    rw [hsplit, hnil, List.append_nil]
  next hpublish =>
    simp only [Bool.or_eq_true, Bool.not_eq_true', decide_eq_true_eq, not_or, Bool.not_eq_false, ne_eq,
      Decidable.not_not] at hpublish
    obtain ⟨⟨hpending, hne⟩, hclear⟩ := hpublish
    have hplace : S.Holds o.hcca (.hcca hccaDoneHead) := ⟨hne, by decide, UInt32.le_refl _⟩
    dsimp only
    set o₁ := ohciWrite32 ram o (o.hcca + hccaDoneHead) o.doneQueue with ho₁
    set o' : Ohci κ D :=
      usbOhciRaise { o₁ with doneHead := o₁.doneQueue, doneQueue := 0, donePending := false } ohciWdh with ho'
    have hregs : o₁.regs = o.regs := regs_write ram _ _
    have hdone : o₁.done = o.done := done_write ram _ _
    have hretired : o'.retired = o.retired := congrArg Done.retired hdone
    have hhead : ohciRead32 ram o' (o.hcca + hccaDoneHead) = o.doneQueue :=
      ohciRead32_write_self ram (hap.inRam _ hplace)
    have hwords : ∀ p, S.Holds o.hcca p → p ≠ .hcca hccaDoneHead →
        ohciRead32 ram o' (p.addr o.hcca) = ohciRead32 ram o (p.addr o.hcca) := fun p hp hdoneHead =>
      read_of_moves hap (show Moves ram (· = o.hcca + hccaDoneHead) o o₁ from moves_write ram rfl)
        (by rw [ho₁, stored_write]; exact hspared) hp fun a ha =>
          ⟨.hcca hccaDoneHead, hplace, ha, fun heq => hdoneHead heq.symm⟩
    have hlists : SameLists o o' := ⟨congrArg Regs.control hregs, congrArg Regs.commandStatus hregs,
      congrArg Regs.hcca hregs, congrArg Regs.controlHeadEd hregs, congrArg Regs.bulkHeadEd hregs⟩
    have hwaits : ∀ t ∈ waiting.reverse, t ∈ o.retired := fun t ht => by
      rw [hsplit]
      exact List.mem_append_right _ (List.mem_reverse.mp ht)
    refine Or.inr ⟨hclear, ?_, hlists.hcca, hretired, congrArg Regs.fmNumber hregs, ?_, waiting, hsplit, ?_, ⟨[], ?_, rfl, ?_⟩,
      ?_⟩
    · have hstatus : o₁.interruptStatus = o.interruptStatus := congrArg Regs.interruptStatus hregs
      show (o₁.interruptStatus ||| ohciWdh) &&& ohciWdh ≠ 0
      rw [hstatus, Masks.or_and, hclear]
      decide
    · exact fun q hq t ht hleft hfuture off hoff => hwords (.td t off) hoff nofun
    · exact h.toQueues.congr hlists hretired fun p hp _ hdoneHead => hwords p hp hdoneHead
    · rw [hretired, List.append_nil]
    · exact ⟨fun h => absurd h Bool.false_ne_true, fun h => absurd rfl h⟩
    · intro l hl
      obtain rfl := Option.some.inj hl
      rw [hlists.hcca, hretired, hhead]
      refine ⟨hne, hwaits, (threaded_congr fun t ht => ?_).mpr hwaiting⟩
      exact hwords (.td t tdNextTd) (holds_link (h.retired_mem t (hwaits t ht))) nofun

lemma stored_writebackDone (o : Ohci κ D) : (ohciWritebackDone ram o).stored = o.stored := by
  unfold ohciWritebackDone
  split
  · rfl
  · exact stored_write ram _ _

/-- **A frame.**  Whatever the devices do, the schedule stays good, and the frame publishes all there is or,
if it may not, nothing. -/
theorem good_frame (host : UsbHost D) (h : Good ram S reported last o) (hap : S.Apart ram o.hcca)
    (hspared : S.Spared ram o.hcca (usbOhciFrame ram host o).stored) :
    (usbOhciFrame ram host o).hcca = o.hcca ∧ Kept ram S o (usbOhciFrame ram host o) ∧
      ((publishes o (usbOhciFrame ram host o) = false ∧ Good ram S reported last (usbOhciFrame ram host o) ∧
          (o.operational → o.hcca ≠ 0 → o.interruptStatus &&& ohciWdh = 0 →
            (usbOhciFrame ram host o).retired = reported)) ∨
        publishes o (usbOhciFrame ram host o) = true ∧
          ∃ waiting, (usbOhciFrame ram host o).retired = reported ++ waiting ∧
            Good ram S (usbOhciFrame ram host o).retired (some waiting.reverse) (usbOhciFrame ram host o)) := by
  have hstart := still_startFrame host o
  have hquiet : ∀ {o' : Ohci κ D}, o'.interruptStatus &&& ohciWdh = o.interruptStatus &&& ohciWdh →
      publishes o o' = false := by
    intro o' hsame
    rw [publishes, hsame, bne, Bool.and_not_self]
  unfold usbOhciFrame at hspared ⊢
  dsimp only at hspared ⊢
  split at hspared
  next hidle =>
    rw [if_pos hidle]
    refine ⟨hstart.lists.hcca, Progress.rfl'.kept.of_still hstart, Or.inl ⟨hquiet hstart.wdh, h.still hstart, ?_⟩⟩
    intro hop
    rw [Ohci.operational, hstart.lists.control, ← Ohci.operational, hop] at hidle
    exact absurd hidle (by decide)
  next hop =>
    rw [if_neg hop]
    have hsettle := hstart.trans (still_settle _)
    set m := settle (startFrame host o)
    set l := runBulkList ram (runControlList ram (runPeriodic ram (tellFrame ram m))) with hl
    have hspared' : S.Spared ram m.hcca l.stored := by
      rw [hsettle.lists.hcca, ← stored_writebackDone]
      exact hspared
    have hapm : S.Apart ram m.hcca := hsettle.lists.hcca.symm ▸ hap
    obtain ⟨hgood, hprogress⟩ := good_lists (h.still hsettle) hapm hspared'
    rw [← hl] at hgood hprogress
    have hkept : Kept ram S o l := hprogress.kept.of_still hsettle
    have hhcca : l.hcca = o.hcca := hprogress.hcca.trans hsettle.lists.hcca
    have hwdh : l.interruptStatus &&& ohciWdh = o.interruptStatus &&& ohciWdh := by
      rw [show l.interruptStatus = m.interruptStatus from congrArg Regs.interruptStatus hprogress.regs, hsettle.wdh]
    rcases good_writebackDone hgood (hprogress.hcca.symm ▸ hapm) (hprogress.hcca.symm ▸ hspared') with
      ⟨hsame, hall⟩ | ⟨hclear, hset, hhcca', hretired, hfm, hkept', waiting, hsplit, hgood'⟩
    · rw [hsame]
      refine ⟨hhcca, hkept.raiseSf, Or.inl ⟨hquiet ?_, hgood.still (still_raiseSf l), fun _ hne hclear => ?_⟩⟩
      · rw [(still_raiseSf l).wdh, hwdh]
      · exact hall (hhcca.symm ▸ hne) (hwdh.trans hclear)
    · have hsubset : l.retired ⊆ (ohciWritebackDone ram l).retired := by
        rw [hretired]
        exact List.Subset.refl _
      refine ⟨hhcca'.trans hhcca, (hkept.trans hkept' hsubset hfm hhcca).raiseSf, Or.inr ⟨?_, waiting,
        hretired.trans hsplit, ?_⟩⟩
      · rw [publishes, ← hwdh, hclear, (still_raiseSf _).wdh]
        simp [hset]
      · have hgood'' := hgood'.still (still_raiseSf _)
        rw [← hretired] at hgood''
        exact hgood''

lemma stored_frame (host : UsbHost D) (o : Ohci κ D) : o.stored <:+ (usbOhciFrame ram host o).stored := by
  have hstart := (still_startFrame host o).stored
  unfold usbOhciFrame
  dsimp only
  split
  · rw [hstart]
  · set m := tellFrame ram (settle (startFrame host o)) with hm
    have htold : m.stored = o.stored := by
      rw [← hstart, ← (still_settle (startFrame host o)).stored, hm, tellFrame]
      split
      · exact stored_write ram _ _
      · rfl
    show _ <:+ (ohciWritebackDone ram _).stored
    rw [stored_writebackDone, ← htold]
    exact (stored_lists m).1.trans ((stored_lists _).2.1.trans (stored_lists _).2.2)

end DoneQueue

/-! ## Runs -/

/-- What happens once the schedule is laid out: a frame, a write of the driver to HcInterruptStatus, a device
that comes or goes. -/
inductive Event (D : Type) where
  | frame
  | acknowledge (val : UInt32)
  | attach (port : Fin 4) (dev : UsbDevice D)
  | detach (port : Fin 4)

/-- A run as the driver sees it: the controller, and the lists it has published, each as it was read when it
was. -/
structure Watch (κ D : Type) where
  ohci : Ohci κ D
  published : List (Option (List UInt32))

section Run

variable {κ D : Type} (ram : Ram κ) (S : Schedule)

/-- The list in the communication area, if it ends with zero before there could have been more in it than
there are descriptors. -/
def doneList (o : Ohci κ D) : Option (List UInt32) :=
  follow (linkOf ram o) 0 S.tds.length (ohciRead32 ram o (o.hcca + hccaDoneHead))

structure Ready (o : Ohci κ D) : Prop extends Queues ram S o where
  fresh : o.retired = []
  doneQueue : o.doneQueue = 0
  donePending : o.donePending = false

/-- What has been published and what waits is all that retired. -/
def Reported (w : Watch κ D) : Prop :=
  ∃ (lists : List (List UInt32)) (waiting : List UInt32), w.published = lists.map some ∧
    lists.flatMap List.reverse ++ waiting = w.ohci.retired

/-- Published lists and the queue are in the order of retirement. -/
structure Sound (hcca : UInt32) (w : Watch κ D) : Prop where
  hcca_eq : w.ohci.hcca = hcca
  good : ∃ lists : List (List UInt32), w.published = lists.map some ∧
    Good ram S (lists.flatMap List.reverse) lists.getLast? w.ohci

variable {ram S} {hcca : UInt32} {w : Watch κ D}

lemma Good.doneList {reported l : List UInt32} {o : Ohci κ D} (h : Good ram S reported (some l) o)
    (hnodup : l.Nodup) : doneList ram S o = some l := by
  obtain ⟨-, hmem, hthread⟩ := h.last l rfl
  exact follow_of_threaded hthread (h.thread_length hmem hnodup)

lemma Sound.reported (h : Sound ram S hcca w) : Reported w := by
  obtain ⟨lists, hlists, hgood⟩ := h.good
  obtain ⟨waiting, hsplit, -⟩ := hgood.waits
  exact ⟨lists, waiting, hlists, hsplit.symm⟩

lemma Sound.readable (h : Sound ram S hcca w) {list : Option (List UInt32)}
    (hlast : w.published.getLast? = some list) : RpcEmu.Usb.doneList ram S w.ohci = list := by
  obtain ⟨lists, hlists, hgood⟩ := h.good
  rw [hlists, List.getLast?_map, Option.map_eq_some_iff] at hlast
  obtain ⟨l, hl, rfl⟩ := hlast
  obtain ⟨waiting, hsplit, -⟩ := hgood.waits
  have hnodup := hgood.nodup
  rw [hsplit, List.nodup_append] at hnodup
  rw [hl] at hgood
  exact hgood.doneList (List.nodup_reverse.mp
    ((List.nodup_flatMap.mp hnodup.1).1 l (List.mem_of_getLast? hl)))

lemma sound_of_ready {o : Ohci κ D} (h : Ready ram S o) : Sound ram S o.hcca ⟨o, []⟩ := by
  refine ⟨rfl, [], rfl, h.toQueues, ⟨[], h.fresh, h.doneQueue, ?_⟩, nofun⟩
  simp [h.donePending]

lemma kept_of_mem {o o' : Ohci κ D} (hmem : o'.mem = o.mem) : Kept ram S o o' :=
  fun q hq t ht hleft hfuture off hoff => by simp only [ohciRead32, hmem]

lemma publishes_of_wdh {o o' : Ohci κ D} (h : o.interruptStatus &&& ohciWdh = 0 → o'.interruptStatus &&& ohciWdh = 0) :
    publishes o o' = false := by
  unfold publishes
  by_cases hclear : o.interruptStatus &&& ohciWdh = 0
  · simp [h hclear]
  · simp [hclear]

lemma Sound.quiet (h : Sound ram S hcca w) {o : Ohci κ D} (hmem : o.mem = w.ohci.mem) (hdone : o.done = w.ohci.done)
    (hlists : SameLists w.ohci o) : Sound ram S hcca ⟨o, w.published⟩ := by
  obtain ⟨lists, hpublished, hgood⟩ := h.good
  exact ⟨hlists.hcca.trans h.hcca_eq, lists, hpublished,
    hgood.congr hlists hdone fun p _ _ => by simp only [ohciRead32, hmem]⟩

variable [DecidableEq κ]

section Steps

variable (ram S) (host : UsbHost D)

def act (o : Ohci κ D) : Event D → Ohci κ D
  | .frame => usbOhciFrame ram host o
  | .acknowledge val => usbOhciWrite o 0x0c val
  | .attach port dev => usbOhciAttach o port dev
  | .detach port => usbOhciDetach o port

def watchStep (w : Watch κ D) (e : Event D) : Watch κ D :=
  let o := act ram host w.ohci e
  ⟨o, if publishes w.ohci o then w.published ++ [doneList ram S o] else w.published⟩

/-- What a step keeps to: a descriptor that is left is what it was, a frame that may publish publishes
everything, and the last list that was published is still the one that is read. -/
structure Exact (w : Watch κ D) (e : Event D) : Prop where
  kept : Kept ram S w.ohci (watchStep ram S host w e).ohci
  all : e = .frame → w.ohci.operational → w.ohci.hcca ≠ 0 → w.ohci.interruptStatus &&& ohciWdh = 0 →
    ∃ lists : List (List UInt32), (watchStep ram S host w e).published = lists.map some ∧
      lists.flatMap List.reverse = (watchStep ram S host w e).ohci.retired
  readable : ∀ list, (watchStep ram S host w e).published.getLast? = some list →
    doneList ram S (watchStep ram S host w e).ohci = list

end Steps

variable {host : UsbHost D}

variable (ram host) in
lemma acknowledge_spec (o : Ohci κ D) (val : UInt32) :
    (act ram host o (.acknowledge val)).mem = o.mem ∧ (act ram host o (.acknowledge val)).stored = o.stored ∧
      (act ram host o (.acknowledge val)).done = o.done ∧ SameLists o (act ram host o (.acknowledge val)) ∧
      (act ram host o (.acknowledge val)).interruptStatus = o.interruptStatus &&& ~~~val := by
  have hreg : Reg.ofOffset 0x0c = .interruptStatus := by decide
  simp only [act, usbOhciWrite, hreg]
  split <;> exact ⟨rfl, rfl, rfl, ⟨rfl, rfl, rfl, rfl, rfl⟩, rfl⟩

/-- **The step.** -/
theorem Sound.step (h : Sound ram S hcca w) (hap : S.Apart ram hcca) (e : Event D)
    (hspared : S.Spared ram hcca (watchStep ram S host w e).ohci.stored) :
    Sound ram S hcca (watchStep ram S host w e) ∧ Exact ram S host w e := by
  cases e with
  | frame =>
    obtain ⟨lists, hpublished, hgood⟩ := h.good
    have hap' : S.Apart ram w.ohci.hcca := h.hcca_eq.symm ▸ hap
    obtain ⟨hhcca, hkept, hcases⟩ := good_frame host hgood hap' (h.hcca_eq.symm ▸ hspared)
    have hhcca' := hhcca.trans h.hcca_eq
    rcases hcases with ⟨hquiet, hgood', hall⟩ | ⟨hpublishes, waiting, hsplit, hgood'⟩
    · have hstep : watchStep ram S host w .frame = ⟨usbOhciFrame ram host w.ohci, w.published⟩ := by
        simp [watchStep, act, hquiet]
      have hsound : Sound ram S hcca (watchStep ram S host w .frame) := by
        rw [hstep]
        exact ⟨hhcca', lists, hpublished, hgood'⟩
      refine ⟨hsound, hkept, fun _ hop hne hclear => ⟨lists, ?_, ?_⟩, fun list => hsound.readable⟩
      · rw [hstep, hpublished]
      · rw [hstep, hall hop hne hclear]
    · have hread : RpcEmu.Usb.doneList ram S (usbOhciFrame ram host w.ohci) = some waiting.reverse := by
        refine hgood'.doneList (List.nodup_reverse.mpr ?_)
        have hnodup := hgood'.nodup
        rw [hsplit, List.nodup_append] at hnodup
        exact hnodup.2.1
      have hstep : watchStep ram S host w .frame =
          ⟨usbOhciFrame ram host w.ohci, (lists ++ [waiting.reverse]).map some⟩ := by
        simp [watchStep, act, hpublishes, hread, hpublished]
      have hflat : (lists ++ [waiting.reverse]).flatMap List.reverse =
          (usbOhciFrame ram host w.ohci).retired := by
        simp [hsplit]
      have hsound : Sound ram S hcca (watchStep ram S host w .frame) := by
        rw [hstep]
        refine ⟨hhcca', _, rfl, ?_⟩
        rw [hflat, List.getLast?_concat]
        exact hgood'
      refine ⟨hsound, hkept, fun _ _ _ _ => ⟨lists ++ [waiting.reverse], ?_, ?_⟩, fun list => hsound.readable⟩
      · rw [hstep]
      · rw [hstep, hflat]
  | acknowledge val =>
    obtain ⟨hmem, -, hdone, hlists, hstatus⟩ := acknowledge_spec ram host w.ohci val
    have hquiet : publishes w.ohci (act ram host w.ohci (.acknowledge val)) = false := by
      refine publishes_of_wdh fun hclear => ?_
      rw [hstatus, UInt32.and_assoc, UInt32.and_comm (~~~val), ← UInt32.and_assoc, hclear, UInt32.zero_and]
    have hstep : watchStep ram S host w (.acknowledge val) =
        ⟨act ram host w.ohci (.acknowledge val), w.published⟩ := by
      simp [watchStep, hquiet]
    have hsound : Sound ram S hcca (watchStep ram S host w (.acknowledge val)) := by
      rw [hstep]
      exact h.quiet hmem hdone hlists
    exact ⟨hsound, kept_of_mem hmem, nofun, fun list => hsound.readable⟩
  | attach port dev =>
    have hstill : Still w.ohci (act ram host w.ohci (.attach port dev)) := still_attach w.ohci port dev
    have hquiet := publishes_of_wdh fun hclear => hstill.wdh.trans hclear
    have hstep : watchStep ram S host w (.attach port dev) =
        ⟨act ram host w.ohci (.attach port dev), w.published⟩ := by
      simp [watchStep, hquiet]
    have hsound : Sound ram S hcca (watchStep ram S host w (.attach port dev)) := by
      rw [hstep]
      exact h.quiet hstill.mem hstill.done hstill.lists
    exact ⟨hsound, kept_of_mem hstill.mem, nofun, fun list => hsound.readable⟩
  | detach port =>
    have hstill : Still w.ohci (act ram host w.ohci (.detach port)) := still_detach w.ohci port
    have hquiet := publishes_of_wdh fun hclear => hstill.wdh.trans hclear
    have hstep : watchStep ram S host w (.detach port) =
        ⟨act ram host w.ohci (.detach port), w.published⟩ := by
      simp [watchStep, hquiet]
    have hsound : Sound ram S hcca (watchStep ram S host w (.detach port)) := by
      rw [hstep]
      exact h.quiet hstill.mem hstill.done hstill.lists
    exact ⟨hsound, kept_of_mem hstill.mem, nofun, fun list => hsound.readable⟩

lemma stored_step (w : Watch κ D) (e : Event D) : w.ohci.stored <:+ (watchStep ram S host w e).ohci.stored := by
  cases e with
  | frame => exact stored_frame host w.ohci
  | acknowledge val =>
    have hstored := (acknowledge_spec ram host w.ohci val).2.1
    exact hstored ▸ List.suffix_rfl
  | attach port dev =>
    have hstored := (still_attach w.ohci port dev).stored
    exact hstored ▸ List.suffix_rfl
  | detach port =>
    have hstored := (still_detach w.ohci port).stored
    exact hstored ▸ List.suffix_rfl

lemma stored_exec (w : Watch κ D) (es : List (Event D)) :
    w.ohci.stored <:+ (exec (watchStep ram S host) w es).ohci.stored := by
  induction es generalizing w with
  | nil => exact List.suffix_rfl
  | cons e es ih => exact (stored_step w e).trans (ih _)

lemma along_spared (es : List (Event D)) (w : Watch κ D)
    (h : S.Spared ram hcca (exec (watchStep ram S host) w es).ohci.stored) :
    Along (watchStep ram S host) (fun w e => S.Spared ram hcca (watchStep ram S host w e).ohci.stored) w es := by
  induction es generalizing w with
  | nil => exact along_nil w
  | cons e es ih => exact (along_cons w e es).mpr ⟨h.of_suffix (stored_exec _ _), ih _ h⟩

/-- **No completed transfer is lost, and none reported twice.**  Along any run from a schedule that has been
laid out, as long as no data is written over it, what was retired was retired once and is what has been
published, each list turned round, but for what still waits; and every step is exact. -/
theorem done_lists_exact {o : Ohci κ D} (hap : S.Apart ram o.hcca) (hready : Ready ram S o) (es : List (Event D))
    (hspared : S.Spared ram o.hcca (exec (watchStep ram S host) ⟨o, []⟩ es).ohci.stored) :
    Reported (exec (watchStep ram S host) ⟨o, []⟩ es) ∧
      (exec (watchStep ram S host) ⟨o, []⟩ es).ohci.retired.Nodup ∧
      (∀ t ∈ (exec (watchStep ram S host) ⟨o, []⟩ es).ohci.retired, t ∈ S.tds) ∧
      Along (watchStep ram S host) (Exact ram S host) ⟨o, []⟩ es := by
  have hstart := sound_of_ready hready
  have halong := along_spared es ⟨o, []⟩ hspared
  have hend : Sound ram S o.hcca (exec (watchStep ram S host) ⟨o, []⟩ es) :=
    exec_inv (fun w e h hspared => (h.step hap e hspared).1) es _ hstart halong
  obtain ⟨lists, -, hgood⟩ := hend.good
  exact ⟨hend.reported, hgood.nodup, hgood.retired_mem,
    along_of_inv (fun w e h hspared => (h.step hap e hspared).1) (fun w e h hspared => (h.step hap e hspared).2)
      es _ hstart halong⟩

end Run

/-! ## A keyboard -/

section Keyboard

attribute [local instance] ports_ne_zero

/-- It takes what is written to it, and no key is pressed. -/
def keyboard : UsbDevice Unit where
  ops := {
    reset := none
    control := fun d _ _ => (.ack, [], d)
    read := some fun d _ _ => (.nak, [], d)
    write := none
    control_fits := fun _ _ _ => Nat.zero_le _
    read_fits := by
      rintro f ⟨⟩ d endpoint len
      exact Nat.zero_le _ }
  address := 0
  lowSpeed := true
  state := ()

/-- Two descriptors on its endpoint 0, and on endpoint 1 one that asks it for a key. -/
def keyboardSchedule : Schedule := [⟨0x100, [0x200, 0x210], false⟩, ⟨0x110, [0x220], false⟩]

def keyboardStart : Ohci UInt32 Unit :=
  let mem : UInt32 → UInt32 := fun a =>
    if a = 0x104 ∨ a = 0x114 then 0x300 else if a = 0x108 then 0x200 else if a = 0x10c then 0x110
    else if a = 0x110 then 0x80 else if a = 0x118 then 0x220
    else if a = 0x200 ∨ a = 0x210 then 0x00080000 else if a = 0x220 then 0x00100000
    else if a = 0x208 then 0x210 else if a = 0x218 ∨ a = 0x228 then 0x300 else 0
  let o := usbOhciWrite (usbOhciAttach (usbOhciInit mem) 0 keyboard) 0x54 0x2
  let o := usbOhciWrite o 0x18 0x1000
  let o := usbOhciWrite (usbOhciWrite o 0x20 0x100) 0x08 0x2
  usbOhciWrite o 0x04 0x90

/-- Whose word is at an address. -/
def keyboardPlace (a : UInt32) : Place :=
  if a < 0x200 then .ed (a &&& ~~~0xf) (a &&& 0xf)
  else if a < 0x1000 then .td (a &&& ~~~0xf) (a &&& 0xf)
  else .hcca (a - 0x1000)

lemma keyboardPlace_addr {p : Place} (hp : keyboardSchedule.Holds 0x1000 p) :
    keyboardPlace (p.addr 0x1000) = p := by
  have hwords : ∀ k : Fin 13,
      (keyboardSchedule.eds.all fun e => keyboardPlace (e + UInt32.ofNat k) = .ed e (UInt32.ofNat k)) = true ∧
        (keyboardSchedule.tds.all fun t => keyboardPlace (t + UInt32.ofNat k) = .td t (UInt32.ofNat k)) = true := by
    decide
  have hhcca : ∀ k : Fin 0x85, keyboardPlace (0x1000 + UInt32.ofNat k) = .hcca (UInt32.ofNat k) := by
    decide
  cases p with
  | ed e off =>
    obtain ⟨he, -, hoff⟩ := hp
    have hplace := List.all_eq_true.mp (hwords ⟨off.toNat, Nat.lt_succ_of_le (UInt32.le_iff_toNat_le.mp hoff)⟩).1 e he
    rwa [decide_eq_true_iff, UInt32.ofNat_toNat] at hplace
  | td t off =>
    obtain ⟨q, hq, ht, -, hoff⟩ := hp
    have hshort : off ≤ 12 := by
      rcases List.mem_cons.mp hq with rfl | hq
      · exact hoff
      · obtain rfl := List.mem_singleton.mp hq
        exact hoff
    have hplace := List.all_eq_true.mp (hwords ⟨off.toNat, Nat.lt_succ_of_le (UInt32.le_iff_toNat_le.mp hshort)⟩).2 t
      (mem_tds hq ht)
    rwa [decide_eq_true_iff, UInt32.ofNat_toNat] at hplace
  | hcca off =>
    have hplace := hhcca ⟨off.toNat, Nat.lt_succ_of_le (UInt32.le_iff_toNat_le.mp hp.2.2)⟩
    rwa [UInt32.ofNat_toNat] at hplace

lemma keyboard_apart : keyboardSchedule.Apart allRam keyboardStart.hcca where
  inRam := fun p _ => Option.some_ne_none _
  inj := by
    have hhcca : keyboardStart.hcca = 0x1000 := by decide
    rw [hhcca]
    intro p p' hp hp' heq
    rw [← keyboardPlace_addr hp, ← keyboardPlace_addr hp']
    exact congrArg keyboardPlace (Option.some.inj heq)
  eds_nodup := by decide
  tds_nodup := by decide
  nonzero := by decide

lemma keyboard_ready : Ready allRam keyboardSchedule keyboardStart where
  listed := {
    table := fun hple => absurd hple (by decide)
    controlList := fun _ _ => by decide
    bulkList := fun hble => absurd hble (by decide)
    next := List.forall_mem_cons.mpr ⟨by decide, List.forall_mem_singleton.mpr (by decide)⟩ }
  iso := by decide
  queue := by
    intro q hq
    rcases List.mem_cons.mp hq with rfl | hq
    · refine ⟨by decide, by decide, by decide, by decide, ?_⟩
      show nextOf allRam keyboardStart 0x210 = ohciRead32 allRam keyboardStart 0x104 &&& edHeadMask
      decide
    · obtain rfl := List.mem_singleton.mp hq
      refine ⟨by decide, by decide, ?_⟩
      show nextOf allRam keyboardStart 0x220 = ohciRead32 allRam keyboardStart 0x114 &&& edHeadMask
      decide
  retired_mem := nofun
  nodup := by decide
  fresh := rfl
  doneQueue := rfl
  donePending := rfl

/-- The first list is acknowledged, the keyboard is asked again, and then it is pulled out. -/
def keyboardRun : List (Event Unit) := [.frame, .acknowledge 2, .frame, .detach 0, .frame]

lemma keyboard_exec :
    (exec (watchStep allRam keyboardSchedule .steady) ⟨keyboardStart, []⟩ keyboardRun).published =
        [some [0x210, 0x200], some [0x220]] ∧
      (exec (watchStep allRam keyboardSchedule .steady) ⟨keyboardStart, []⟩ keyboardRun).ohci.stored = [] := by
  decide +kernel

theorem done_lists_exact_keyboard :
    Reported (exec (watchStep allRam keyboardSchedule .steady) ⟨keyboardStart, []⟩ keyboardRun) ∧
      (exec (watchStep allRam keyboardSchedule .steady) ⟨keyboardStart, []⟩ keyboardRun).published =
        [some [0x210, 0x200], some [0x220]] := by
  have hspared : keyboardSchedule.Spared allRam keyboardStart.hcca
      (exec (watchStep allRam keyboardSchedule .steady) ⟨keyboardStart, []⟩ keyboardRun).ohci.stored := by
    rw [keyboard_exec.2]
    exact List.forall_mem_nil _
  exact ⟨(done_lists_exact keyboard_apart keyboard_ready keyboardRun hspared).1, keyboard_exec.1⟩

end Keyboard

end RpcEmu.Usb
