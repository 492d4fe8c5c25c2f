import RpcEmu.Net.Capture

/-!
# A reader misses nothing unknowingly

What is held in the ring and what its reader waits for are both the last of the frames recorded
(`Tracked`), so that either all that is waited for is held, or the ring was written over and the oldest
serial says so.

* **`Tracked.step`** — a careful step keeps it so, and `Tracked.spoilt` — no other step does for long.
* **The gap.**  `netcapClear` counts from 1 again, and `netcapRingEnable` drops the frames without a word:
  `capture_reader` says that these, and the counter's end, are all that goes wrong.
-/

namespace RpcEmu.Net

open Runs WrittenOver

/-! ## What a frame does to the ring -/

section Put

variable {nc : NetCapture}

lemma filter_unused (k : Nat) {kept : List NetcapFrame} (hkept : ∀ f ∈ kept, f.serial ≠ 0) :
    (List.replicate k NetcapFrame.zero ++ kept).filter (fun f => f.serial ≠ 0) = kept := by
  have hself : kept.filter (fun f => f.serial ≠ 0) = kept := List.filter_eq_self.mpr (by simpa using hkept)
  have hnone : (List.replicate k NetcapFrame.zero).filter (fun f => f.serial ≠ 0) = [] :=
    List.filter_replicate_of_neg (by simp [NetcapFrame.zero])
  rw [List.filter_append, hself, hnone, List.nil_append]

lemma walk_put {slots : Nat → NetcapFrame} {next k : Nat} {kept : List NetcapFrame} (f : NetcapFrame)
    (hnext : next < netcapRingFrames)
    (hwalk : walk netcapRingFrames slots next = List.replicate k NetcapFrame.zero ++ kept) :
    walk netcapRingFrames (Function.update slots next f) ((next + 1) % netcapRingFrames) =
      List.replicate (k - 1) NetcapFrame.zero ++ ((if k = 0 then kept.tail else kept) ++ [f]) := by
  rw [walk_write hnext, hwalk]
  cases k with
  | zero => simp
  | succ k => simp [List.replicate_succ]

lemma ringFrames_serial_ne {f : NetcapFrame} (hf : f ∈ ringFrames nc) : f.serial ≠ 0 := by
  unfold ringFrames at hf
  split at hf
  · cases hf
  · simpa using (List.mem_filter.mp hf).2

lemma fileFrame_ring (nc : NetCapture) (data : List UInt8) (wrote : Bool) :
    (fileFrame nc data wrote).ring = nc.ring ∧ (fileFrame nc data wrote).ringActive = nc.ringActive ∧
    (fileFrame nc data wrote).ringNext = nc.ringNext ∧ (fileFrame nc data wrote).serial = nc.serial ∧
    (fileFrame nc data wrote).ringOldestSerial = nc.ringOldestSerial ∧
    (fileFrame nc data wrote).initialised = nc.initialised := by
  simp only [fileFrame]
  split_ifs <;> exact ⟨rfl, rfl, rfl, rfl, rfl, rfl⟩

lemma ringFrame_put {slots : Nat → NetcapFrame} (hring : nc.ring = some slots) (hactive : nc.ringActive = true)
    (a : Arriving) (data : List UInt8) :
    (ringFrame nc a data).ring = some (Function.update slots nc.ringNext (entryOf a nc.serial data)) ∧
    (ringFrame nc a data).ringActive = true ∧
    (ringFrame nc a data).ringNext = (nc.ringNext + 1) % netcapRingFrames ∧
    (ringFrame nc a data).serial = nc.serial ∧
    (ringFrame nc a data).ringOldestSerial =
      (if netcapRingFrames < nc.serial then nc.serial - netcapRingFrames + 1 else 1) ∧
    (ringFrame nc a data).initialised = nc.initialised := by
  simp [ringFrame, hring, hactive]

end Put

/-! ## The invariant -/

/-- The frames held and the frames the reader waits for are numbered up to the counter, and the ones are
the last of the others: there is more in the ring than the reader waits for, or the ring was written
over. -/
structure Tracked (g : Watch) : Prop where
  ready : RingReady g.nc
  bound : g.nc.serial < 2 ^ 64
  issued : g.issued = List.range' 1 g.nc.serial
  held : Numbered (ringFrames g.nc) g.nc.serial
  oldest : (ringFrames g.nc).length = netcapRingFrames →
    g.nc.ringOldestSerial + netcapRingFrames = g.nc.serial + 1
  pending : Numbered g.pending g.nc.serial
  last : g.last + g.pending.length ≤ g.nc.serial
  order : (∃ given, ringFrames g.nc = given ++ g.pending ∧ ∀ f ∈ given, f.serial ≤ g.last) ∨
    ((ringFrames g.nc).length = netcapRingFrames ∧ ∃ lost, lost ≠ [] ∧ g.pending = lost ++ ringFrames g.nc)

section Tracked

variable {g : Watch}

lemma Tracked.pending_newer (h : Tracked g) {f : NetcapFrame} (hf : f ∈ g.pending) : g.last < f.serial := by
  have hmem := h.pending.mem hf
  have hlast := h.last
  omega

lemma Tracked.newer (h : Tracked g) : ((ringFrames g.nc).filter fun f => g.last < f.serial) = g.pending ∨
    (((ringFrames g.nc).filter fun f => g.last < f.serial) = ringFrames g.nc ∧
      (ringFrames g.nc).length = netcapRingFrames ∧ ∃ lost, lost ≠ [] ∧
        g.pending = lost ++ ringFrames g.nc) := by
  rcases h.order with ⟨given, hheld, hgiven⟩ | ⟨hfull, lost, hlost, hpending⟩
  · left
    rw [hheld, List.filter_append, List.filter_eq_nil_iff.mpr (by simpa using hgiven),
      List.filter_eq_self.mpr (by simpa using fun f hf => h.pending_newer hf), List.nil_append]
  · right
    refine ⟨List.filter_eq_self.mpr ?_, hfull, lost, hlost, hpending⟩
    intro f hf
    simpa using h.pending_newer (hpending ▸ List.mem_append_right lost hf)

lemma Tracked.pending_eq_nil (h : Tracked g) (hgiven : ∀ f ∈ ringFrames g.nc, f.serial ≤ g.last) :
    g.pending = [] := by
  rcases h.newer with hnewer | ⟨hall, hfull, -⟩
  · rw [← hnewer, List.filter_eq_nil_iff]
    simpa using hgiven
  · have hnone : ((ringFrames g.nc).filter fun f => g.last < f.serial) = [] := by
      rw [List.filter_eq_nil_iff]
      simpa using hgiven
    rw [hnone] at hall
    rw [← hall, List.length_nil] at hfull
    exact absurd hfull.symm netcapRingFrames_pos.ne'

/-- **A poll is right** wherever the invariant holds. -/
lemma Tracked.pollRight (h : Tracked g) (max : Nat) : PollRight g max := by
  have hframes := copySince_frames h.ready g.last max
  rcases h.newer with hnewer | ⟨hall, hfull, lost, hlost, hpending⟩
  · left
    rw [hframes, hnewer]
  by_cases hmax : max = 0
  · left
    rw [hframes, hmax, List.take_zero, List.take_zero]
  right
  have hinit : g.nc.initialised = true := by
    by_contra hno
    have hring := (h.ready.init (by simpa using hno)).1
    rw [ringFrames_none hring] at hfull
    exact absurd hfull.symm netcapRingFrames_pos.ne'
  have holdest := h.oldest hfull
  have hlen := congrArg List.length hpending
  have hlost := List.length_pos_of_ne_nil hlost
  have hlast := h.last
  rw [List.length_append, hfull] at hlen
  rw [copySince_oldest hinit hmax]
  refine ⟨?_, by omega⟩
  cases hheld : ringFrames g.nc with
  | nil =>
    rw [hheld] at hfull
    exact absurd hfull.symm netcapRingFrames_pos.ne'
  | cons f rest =>
    have hnum := h.held
    rw [hheld] at hnum hfull
    rw [List.length_cons] at hfull
    have hhead := hnum.head
    rw [hnum.min?, Option.some_inj]
    omega

lemma Tracked.watched (h : Tracked g) : Watched g where
  serials := by
    rw [h.issued]
    exact List.nodup_range'
  polls := h.pollRight

end Tracked

/-! ## What each call keeps -/

section Steps

variable {g : Watch}

lemma tracked_start : Tracked Watch.start where
  ready := ⟨rfl, fun _ => ⟨rfl, rfl⟩, netcapRingFrames_pos, fun _ hring => nomatch hring⟩
  bound := by decide
  issued := rfl
  held := numbered_nil
  oldest := fun hfull => absurd hfull.symm netcapRingFrames_pos.ne'
  pending := numbered_nil
  last := Nat.le_refl _
  order := Or.inl ⟨[], rfl, by simp⟩

lemma Tracked.congr (h : Tracked g) {nc : NetCapture} (hring : nc.ring = g.nc.ring)
    (hactive : nc.ringActive = g.nc.ringActive) (hnext : nc.ringNext = g.nc.ringNext)
    (hserial : nc.serial = g.nc.serial) (holdest : nc.ringOldestSerial = g.nc.ringOldestSerial)
    (hinit : nc.initialised = false → g.nc.initialised = false) : Tracked { g with nc := nc } := by
  have hheld : ringFrames nc = ringFrames g.nc := by
    unfold ringFrames
    rw [hring, hnext]
  refine ⟨⟨?_, ?_, ?_, ?_⟩, hserial ▸ h.bound, ?_, ?_, ?_, ?_, ?_, ?_⟩ <;> dsimp only
  · rw [hactive, hring, h.ready.active]
  · rw [hring, hserial]
    exact fun hno => h.ready.init (hinit hno)
  · rw [hnext]
    exact h.ready.next
  · rw [hring, hnext, hheld]
    exact h.ready.walk
  · rw [hserial]
    exact h.issued
  · rw [hheld, hserial]
    exact h.held
  · rw [hheld, holdest, hserial]
    exact h.oldest
  · rw [hserial]
    exact h.pending
  · rw [hserial]
    exact h.last
  · rw [hheld]
    exact h.order

lemma Tracked.emptied (h : Tracked g) (hpending : g.pending = []) {nc : NetCapture} (hready : RingReady nc)
    (hheld : ringFrames nc = []) (hserial : nc.serial = g.nc.serial) : Tracked { g with nc := nc } := by
  refine ⟨hready, hserial ▸ h.bound, ?_, ?_, ?_, ?_, ?_, ?_⟩ <;> dsimp only
  · rw [hserial]
    exact h.issued
  · rw [hheld]
    exact numbered_nil
  · rw [hheld]
    exact fun hfull => absurd hfull.symm netcapRingFrames_pos.ne'
  · rw [hpending]
    exact numbered_nil
  · rw [hserial]
    exact h.last
  · rw [hheld, hpending]
    exact Or.inl ⟨[], rfl, by simp⟩

lemma ready_none {nc : NetCapture} (hring : nc.ring = none) (hactive : nc.ringActive = false)
    (hnext : nc.ringNext < netcapRingFrames) (hinit : nc.initialised = true) : RingReady nc where
  active := by rw [hactive, hring]; rfl
  init := by simp [hinit]
  next := hnext
  walk := by simp [hring]

lemma ready_fresh (nc : NetCapture) (hring : nc.ring = some fun _ => NetcapFrame.zero)
    (hactive : nc.ringActive = true) (hnext : nc.ringNext < netcapRingFrames)
    (hinit : nc.initialised = true) : RingReady nc ∧ ringFrames nc = [] := by
  have hheld : ringFrames nc = [] := by
    rw [ringFrames, hring]
    dsimp only
    rw [walk_const]
    have hunused := filter_unused netcapRingFrames (List.forall_mem_nil fun f : NetcapFrame => f.serial ≠ 0)
    rwa [List.append_nil] at hunused
  refine ⟨⟨by rw [hactive, hring]; rfl, by simp [hinit], hnext, ?_⟩, hheld⟩
  intro slots hslots
  obtain rfl := Option.some_inj.mp (hring.symm.trans hslots)
  exact ⟨netcapRingFrames, by rw [walk_const, hheld, List.append_nil]⟩

lemma Tracked.init (h : Tracked g) : Tracked { g with nc := netcapInit g.nc } := by
  unfold netcapInit
  split
  next => exact h
  next hno =>
    obtain ⟨hring, hserial⟩ := h.ready.init (by simpa using hno)
    have hpending := h.pending_eq_nil (by simp [ringFrames_none hring])
    exact h.emptied hpending (ready_none rfl rfl netcapRingFrames_pos rfl) (ringFrames_none rfl) hserial.symm

lemma Tracked.fileStop (h : Tracked g) : Tracked { g with nc := netcapFileStop g.nc } := by
  unfold netcapFileStop
  split
  · exact h.congr rfl rfl rfl rfl rfl id
  · exact h

lemma Tracked.fileStart (h : Tracked g) (opened : Bool) (maxBytes : UInt64) :
    Tracked { g with nc := netcapFileStart g.nc opened maxBytes } := by
  have hstopped := h.init.fileStop
  simp only [netcapFileStart]
  split
  · exact hstopped
  · exact hstopped.congr rfl rfl rfl rfl rfl id

lemma initialised_init (nc : NetCapture) : (netcapInit nc).initialised = true := by
  unfold netcapInit
  split <;> first | assumption | rfl

lemma Tracked.ringEnable (h : Tracked g) (enable allocated : Bool)
    (hcareful : Careful g (.ringEnable enable allocated)) :
    Tracked { g with nc := netcapRingEnable g.nc enable allocated } := by
  have hinit := h.init
  cases enable with
  | false =>
    exact hinit.emptied (h.pending_eq_nil (hcareful rfl))
      (ready_none rfl rfl netcapRingFrames_pos (initialised_init g.nc)) (ringFrames_none rfl) rfl
  | true =>
    simp only [netcapRingEnable, if_true]
    cases hring : (netcapInit g.nc).ring with
    | some slots =>
      refine hinit.congr hring.symm ?_ rfl rfl rfl id
      rw [hinit.ready.active, hring]
    | none =>
      have hpending : g.pending = [] := hinit.pending_eq_nil (by simp [ringFrames_none hring])
      cases allocated with
      | false =>
        exact hinit.emptied hpending (ready_none rfl rfl hinit.ready.next (initialised_init g.nc))
          (ringFrames_none rfl) rfl
      | true =>
        obtain ⟨hready, hheld⟩ := ready_fresh { netcapInit g.nc with
          ring := some fun _ => NetcapFrame.zero, ringActive := true } rfl rfl hinit.ready.next
          (initialised_init g.nc)
        exact hinit.emptied hpending hready hheld rfl

lemma Tracked.clear (h : Tracked g) (hserial : g.nc.serial = 0) :
    Tracked { g with nc := netcapClear g.nc } := by
  have hheld : ringFrames g.nc = [] := by
    have hle := h.held.length_le
    exact List.eq_nil_of_length_eq_zero (by omega)
  have hpending := h.pending_eq_nil (by simp [hheld])
  unfold netcapClear
  split
  next => exact h
  next hinit =>
    rw [Bool.not_eq_true, Bool.not_eq_false'] at hinit
    cases hring : g.nc.ring with
    | none =>
      have hactive : g.nc.ringActive = false := by rw [h.ready.active, hring]; rfl
      exact h.emptied hpending (ready_none rfl hactive netcapRingFrames_pos hinit) (ringFrames_none rfl)
        hserial.symm
    | some slots =>
      have hactive : g.nc.ringActive = true := by rw [h.ready.active, hring]; rfl
      obtain ⟨hready, hempty⟩ := ready_fresh (netcapClear g.nc) (by simp [netcapClear, hinit, hring])
        (by simp [netcapClear, hinit, hactive]) (by simp [netcapClear, hinit, netcapRingFrames_pos])
        (by simp [netcapClear, hinit])
      have hclear := h.emptied hpending hready hempty (by simp [netcapClear, hinit, hserial])
      simpa [netcapClear, hinit, hring] using hclear

lemma Tracked.countedOnly (h : Tracked g) (hring : g.nc.ring = none) {nc : NetCapture} (hring' : nc.ring = none)
    (hactive : nc.ringActive = false) (hnext : nc.ringNext < netcapRingFrames)
    (hinit : nc.initialised = true) (hserial : nc.serial = g.nc.serial + 1) (hbound : nc.serial < 2 ^ 64) :
    Tracked { g with nc := nc, issued := g.issued ++ [nc.serial] } := by
  have hpending := h.pending_eq_nil (by simp [ringFrames_none hring])
  have hheld := ringFrames_none hring'
  refine ⟨ready_none hring' hactive hnext hinit, hbound, ?_, ?_, ?_, ?_, ?_, ?_⟩ <;> dsimp only
  · rw [h.issued, hserial, List.range'_concat]
    congr 2
    omega
  · rw [hheld]
    exact numbered_nil
  · rw [hheld]
    exact fun hfull => absurd hfull.symm netcapRingFrames_pos.ne'
  · rw [hpending]
    exact numbered_nil
  · have hlast := h.last
    omega
  · rw [hheld, hpending]
    exact Or.inl ⟨[], rfl, by simp⟩

def surviving (frames : List NetcapFrame) : List NetcapFrame :=
  if frames.length = netcapRingFrames then frames.tail else frames

lemma mem_of_mem_surviving {frames : List NetcapFrame} {f : NetcapFrame} (hf : f ∈ surviving frames) :
    f ∈ frames := by
  unfold surviving at hf
  split at hf
  · exact List.mem_of_mem_tail hf
  · exact hf

lemma ready_put (h : RingReady g.nc) {slots : Nat → NetcapFrame} (hring : g.nc.ring = some slots)
    {f : NetcapFrame} (hf : f.serial ≠ 0) {nc : NetCapture}
    (hring' : nc.ring = some (Function.update slots g.nc.ringNext f))
    (hactive : nc.ringActive = true) (hnext : nc.ringNext = (g.nc.ringNext + 1) % netcapRingFrames)
    (hinit : nc.initialised = true) :
    RingReady nc ∧ ringFrames nc = surviving (ringFrames g.nc) ++ [f] := by
  obtain ⟨k, hwalk⟩ := h.walk slots hring
  have hlen := congrArg List.length hwalk
  rw [length_walk, List.length_append, List.length_replicate] at hlen
  have hput := walk_put f h.next hwalk
  have hfull : k = 0 ↔ (ringFrames g.nc).length = netcapRingFrames := by omega
  have hsurviving : (if k = 0 then (ringFrames g.nc).tail else ringFrames g.nc) =
      surviving (ringFrames g.nc) := by simp only [surviving, hfull]
  rw [hsurviving] at hput
  have hused : ∀ x ∈ surviving (ringFrames g.nc) ++ [f], x.serial ≠ 0 := by
    intro x hx
    rcases List.mem_append.mp hx with hx | hx
    · exact ringFrames_serial_ne (mem_of_mem_surviving hx)
    · rw [List.mem_singleton.mp hx]
      exact hf
  have hheld : ringFrames nc = surviving (ringFrames g.nc) ++ [f] := by
    rw [ringFrames, hring']
    dsimp only
    rw [hnext, hput, filter_unused _ hused]
  refine ⟨⟨by rw [hactive, hring']; rfl, by simp [hinit], ?_, ?_⟩, hheld⟩
  · rw [hnext]
    exact Nat.mod_lt _ netcapRingFrames_pos
  · intro slots' hslots'
    obtain rfl := Option.some_inj.mp (hring'.symm.trans hslots')
    exact ⟨k - 1, by rw [hnext, hput, hheld]⟩

lemma Tracked.put (h : Tracked g) {slots : Nat → NetcapFrame} (hring : g.nc.ring = some slots)
    {f : NetcapFrame} (hf : f.serial = g.nc.serial + 1) {nc : NetCapture}
    (hring' : nc.ring = some (Function.update slots g.nc.ringNext f))
    (hactive : nc.ringActive = true) (hnext : nc.ringNext = (g.nc.ringNext + 1) % netcapRingFrames)
    (hinit : nc.initialised = true) (hserial : nc.serial = g.nc.serial + 1)
    (hbound : nc.serial < 2 ^ 64) (holdest : nc.ringOldestSerial =
      if netcapRingFrames < nc.serial then nc.serial - netcapRingFrames + 1 else 1) :
    Tracked { g with nc := nc, pending := g.pending ++ [f], issued := g.issued ++ [nc.serial] } := by
  obtain ⟨hready, hheld⟩ := ready_put h.ready hring (by omega) hring' hactive hnext hinit
  have hnumbered : Numbered (ringFrames nc) nc.serial := by
    rw [hheld, hserial]
    refine Numbered.concat ?_ hf
    unfold surviving
    split
    · cases hold : ringFrames g.nc with
      | nil => exact numbered_nil
      | cons x rest =>
        have hheld : Numbered ([x] ++ rest) g.nc.serial := by simpa [hold] using h.held
        exact hheld.drop
    · exact h.held
  have hpos := netcapRingFrames_pos
  refine ⟨hready, hbound, ?_, hnumbered, ?_, ?_, ?_, ?_⟩ <;> dsimp only
  · rw [h.issued, hserial, List.range'_concat]
    congr 2
    omega
  · intro hfull
    have hle := hnumbered.length_le
    rw [holdest]
    split <;> omega
  · rw [hserial]
    exact h.pending.concat hf
  · have hlast := h.last
    rw [List.length_append, List.length_singleton]
    omega
  · rw [hheld, surviving]
    rcases h.order with ⟨given, horder, hgiven⟩ | ⟨hfull, lost, hlost, hpending⟩
    · by_cases hfull : (ringFrames g.nc).length = netcapRingFrames
      · rw [if_pos hfull]
        cases given with
        | cons x given =>
          left
          refine ⟨given, by simp [horder], ?_⟩
          exact fun y hy => hgiven y (List.mem_cons_of_mem _ hy)
        | nil =>
          -- the reader waits for all that is held, and the oldest of it is written over
          right
          rw [List.nil_append] at horder
          cases hpending : g.pending with
          | nil =>
            rw [horder, hpending, List.length_nil] at hfull
            omega
          | cons x rest =>
            rw [horder, hpending, List.length_cons] at hfull
            refine ⟨?_, [x], by simp, by simp [horder, hpending]⟩
            rw [horder, hpending, List.tail_cons, List.length_append, List.length_singleton, hfull]
      · rw [if_neg hfull]
        left
        exact ⟨given, by rw [horder, List.append_assoc], hgiven⟩
    · rw [if_pos hfull]
      right
      cases hold : ringFrames g.nc with
      | nil =>
        rw [hold, List.length_nil] at hfull
        omega
      | cons x rest =>
        rw [hold, List.length_cons] at hfull
        refine ⟨?_, lost ++ [x], by simp, by simp [hpending, hold]⟩
        rw [List.tail_cons, List.length_append, List.length_singleton, hfull]

lemma counted_some {nc : NetCapture} {a : Arriving} {data : List UInt8} (h : counted nc a = some data) :
    nc.initialised = true := by
  unfold counted at h
  split at h
  · cases h
  · simp_all

lemma Tracked.frame (h : Tracked g) (a : Arriving) (wrote : Bool) (hcareful : Careful g (.frame a wrote)) :
    Tracked (watchStep g (.frame a wrote)) := by
  cases hcounted : counted g.nc a with
  | none => simpa [watchStep, netcapFrame, putInRing, hcounted] using h
  | some data =>
    have hinit := counted_some hcounted
    have hserial : (countFrame g.nc a data).serial = g.nc.serial + 1 :=
      Nat.mod_eq_of_lt (hcareful (by simp [hcounted]))
    have hbound : (countFrame g.nc a data).serial < 2 ^ 64 := Nat.mod_lt _ (by decide)
    cases hring : g.nc.ring with
    | none =>
      have hactive : g.nc.ringActive = false := by rw [h.ready.active, hring]; rfl
      have hskip : ringFrame (countFrame g.nc a data) a data = countFrame g.nc a data := by
        simp [ringFrame, countFrame, hring]
      have hnext : watchStep g (.frame a wrote) =
          { g with
            nc := fileFrame (countFrame g.nc a data) data wrote
            issued := g.issued ++ [(countFrame g.nc a data).serial] } := by
        simp [watchStep, netcapFrame, putInRing, hcounted, hactive, hskip]
      obtain ⟨hring', hactive', hnext', hserial', -, hinit'⟩ :=
        fileFrame_ring (countFrame g.nc a data) data wrote
      have hkept := h.countedOnly hring (hring'.trans hring) (hactive'.trans hactive)
        (hnext' ▸ h.ready.next) (hinit'.trans hinit) (hserial'.trans hserial)
        (hserial' ▸ hbound)
      rw [hserial'] at hkept
      rw [hnext]
      exact hkept
    | some slots =>
      have hactive : g.nc.ringActive = true := by rw [h.ready.active, hring]; rfl
      have hnext : watchStep g (.frame a wrote) =
          { g with
            nc := fileFrame (ringFrame (countFrame g.nc a data) a data) data wrote
            pending := g.pending ++ [entryOf a (countFrame g.nc a data).serial data]
            issued := g.issued ++ [(countFrame g.nc a data).serial] } := by
        simp [watchStep, netcapFrame, putInRing, hcounted, hactive]
      obtain ⟨hring', hactive', hnext', hserial', holdest', hinit'⟩ :=
        fileFrame_ring (ringFrame (countFrame g.nc a data) a data) data wrote
      obtain ⟨hput, hput_active, hput_next, hput_serial, hput_oldest, hput_init⟩ :=
        @ringFrame_put (countFrame g.nc a data) slots hring hactive a data
      rw [hput_serial] at hserial'
      have hkept := h.put hring hserial (hring'.trans hput) (hactive'.trans hput_active)
        (hnext'.trans hput_next) (hinit'.trans (hput_init.trans hinit)) (hserial'.trans hserial)
        (hserial' ▸ hbound) (by rw [hserial']; exact holdest'.trans hput_oldest)
      rw [hserial'] at hkept
      rw [hnext]
      exact hkept

lemma Tracked.given (h : Tracked g) {front front' rest : List NetcapFrame} {f : NetcapFrame}
    (hpending : g.pending = front ++ f :: rest) (hheld : ringFrames g.nc = front' ++ f :: rest) :
    Tracked { g with last := f.serial, pending := rest } := by
  have hnum := h.pending
  rw [hpending] at hnum
  have hfrom : Numbered ([f] ++ rest) g.nc.serial := hnum.drop
  refine { h with pending := hfrom.drop, last := hfrom.head.le, order := ?_ }
  left
  refine ⟨front' ++ [f], by simp [hheld], ?_⟩
  intro x hx
  have hnum' := h.held
  rw [hheld] at hnum'
  rcases List.mem_append.mp hx with hx | hx
  · exact (hnum'.before hx).le
  · rw [List.mem_singleton.mp hx]

lemma drop_idxOf {front rest : List NetcapFrame} {f : NetcapFrame} (hf : f ∉ front) :
    (front ++ f :: rest).drop ((front ++ f :: rest).idxOf f + 1) = rest := by
  rw [List.idxOf_append_of_notMem hf, List.idxOf_cons_self, Nat.add_zero]
  simp [List.drop_append]

lemma eq_of_getLast?_take {frames : List NetcapFrame} {max : Nat} {f : NetcapFrame}
    (hf : (frames.take max).getLast? = some f) : ∃ front, frames = front ++ f :: frames.drop max := by
  obtain ⟨front, hfront⟩ := List.getLast?_eq_some_iff.mp hf
  refine ⟨front, ?_⟩
  calc frames = frames.take max ++ frames.drop max := (List.take_append_drop max frames).symm
    _ = front ++ f :: frames.drop max := by rw [hfront, List.append_assoc, List.singleton_append]

lemma Tracked.poll (h : Tracked g) (max : Nat) : Tracked (watchStep g (.poll max)) := by
  simp only [watchStep]
  rw [copySince_frames h.ready]
  cases hlast : (((ringFrames g.nc).filter fun f => g.last < f.serial).take max).getLast? with
  | none => exact h
  | some f =>
    have hsplit : ∃ front front' rest, g.pending = front ++ f :: rest ∧
        ringFrames g.nc = front' ++ f :: rest := by
      rcases h.newer with hnewer | ⟨hall, hfull, lost, -, hpending⟩
      · rw [hnewer] at hlast
        obtain ⟨front, hfront⟩ := eq_of_getLast?_take hlast
        rcases h.order with ⟨given, hheld, -⟩ | ⟨hfull, lost, hlost, hpending⟩
        · exact ⟨front, given ++ front, _, hfront, by rw [hheld, List.append_assoc, ← hfront]⟩
        · -- the reader cannot wait for more than is newer than what it has
          have hlen := congrArg List.length hpending
          have hle := congrArg List.length hnewer
          have hfilter := List.length_filter_le (fun f => decide (g.last < f.serial)) (ringFrames g.nc)
          have hpos := List.length_pos_of_ne_nil hlost
          rw [List.length_append] at hlen
          omega
      · rw [hall] at hlast
        obtain ⟨front, hfront⟩ := eq_of_getLast?_take hlast
        exact ⟨lost ++ front, front, _, by rw [hpending, List.append_assoc, ← hfront], hfront⟩
    obtain ⟨front, front', rest, hpending, hheld⟩ := hsplit
    have hnodup := h.pending.nodup
    rw [hpending, List.nodup_append] at hnodup
    have hf : f ∉ front := fun hmem => hnodup.2.2 f hmem f List.mem_cons_self rfl
    have hkept := h.given hpending hheld
    dsimp only
    rw [hpending, drop_idxOf hf]
    exact hkept

/-- **One step.** -/
lemma Tracked.step (h : Tracked g) {e : CapEvent} (hcareful : Careful g e) : Tracked (watchStep g e) := by
  cases e with
  | frame a wrote => exact h.frame a wrote hcareful
  | ringEnable enable allocated => exact h.ringEnable enable allocated hcareful
  | fileStart opened maxBytes => exact h.fileStart opened maxBytes
  | fileStop => exact h.fileStop
  | clear => exact h.clear hcareful
  | poll max => exact h.poll max

lemma issued_again (hserial : g.nc.serial = 0) (hissued : 1 ∈ g.issued) :
    ∃ es, Along watchStep Careful g es ∧ ¬Watched (exec watchStep g es) := by
  have hinit := initialised_init g.nc
  have hactive : (netcapRingEnable g.nc true true).ringActive = true := by
    simp only [netcapRingEnable, if_true]
    split <;> rfl
  have hserial' : (netcapRingEnable g.nc true true).serial = 0 := by
    simp only [netcapRingEnable, if_true, netcapInit]
    split
    · exact hserial
    · rfl
  let a : Arriving := ⟨.rx, some [0], 0, 0⟩
  have hcounted : counted (netcapRingEnable g.nc true true) a = some [0] := by
    have hinit' : (netcapRingEnable g.nc true true).initialised = true := hinit
    simp [counted, hinit', hactive, a]
  refine ⟨[.ringEnable true true, .frame a true], ?_, ?_⟩
  · simp [Careful, watchStep, hserial']
  · intro hwatched
    have hnodup := hwatched.serials
    simp only [exec_cons, exec_nil, watchStep, hcounted, Option.map_some, Option.toList_some, countFrame,
      hserial'] at hnodup
    rw [List.nodup_append] at hnodup
    exact hnodup.2.2 1 hissued 1 (by simp) rfl

/-- **Where a step is not careful** there is a run on, of careful steps, that ends badly. -/
lemma Tracked.spoilt (h : Tracked g) {e : CapEvent} (hcareful : ¬Careful g e) :
    ∃ es, Along watchStep Careful (watchStep g e) es ∧ ¬Watched (exec watchStep (watchStep g e) es) := by
  have hbound := h.bound
  cases e with
  | frame a wrote =>
    simp only [Careful, Classical.not_imp] at hcareful
    obtain ⟨hsome, hlast⟩ := hcareful
    obtain ⟨data, hcounted⟩ := Option.isSome_iff_exists.mp hsome
    have hwrap : (countFrame g.nc a data).serial = 0 := by
      show (g.nc.serial + 1) % 2 ^ 64 = 0
      omega
    refine issued_again ?_ ?_
    · have hring : (ringFrame (countFrame g.nc a data) a data).serial = (countFrame g.nc a data).serial := by
        unfold ringFrame
        split
        · rfl
        · split <;> rfl
      simp only [watchStep, netcapFrame, hcounted]
      rw [(fileFrame_ring _ data wrote).2.2.2.1, hring, hwrap]
    · simp only [watchStep, h.issued]
      exact List.mem_append_left _ (List.mem_range'_1.mpr (by omega))
  | ringEnable enable allocated =>
    simp only [Careful, Classical.not_imp, not_forall, not_le] at hcareful
    obtain ⟨rfl, f, hf, hlast⟩ := hcareful
    refine ⟨[], by simp, ?_⟩
    intro hwatched
    have hpending : g.pending ≠ [] := by
      intro hnone
      rcases h.newer with hnewer | ⟨-, -, lost, hlost, hpending⟩
      · rw [hnone, List.filter_eq_nil_iff] at hnewer
        exact absurd (by simpa using hlast) (hnewer f hf)
      · rw [hnone] at hpending
        exact hlost (List.append_eq_nil_iff.mp hpending.symm).1
    have hinit := initialised_init g.nc
    rcases hwatched.polls 1 with hframes | ⟨-, holdest⟩
    · cases hwait : g.pending with
      | nil => exact hpending hwait
      | cons x rest => simp [watchStep, netcapRingEnable, netcapCopySince, hinit, hwait] at hframes
    · simp [watchStep, netcapRingEnable, netcapCopySince, hinit] at holdest
  | clear =>
    have hcareful : g.nc.serial ≠ 0 := hcareful
    have hinit : g.nc.initialised = true := by
      by_contra hno
      exact hcareful (h.ready.init (by simpa using hno)).2
    refine issued_again ?_ ?_
    · simp [watchStep, netcapClear, hinit]
    · simp only [watchStep, h.issued]
      exact List.mem_range'_1.mpr (by omega)
  | fileStart opened maxBytes => exact absurd trivial hcareful
  | fileStop => exact absurd trivial hcareful
  | poll max => exact absurd trivial hcareful

end Steps

/-- **The capture's reader.**  In a run whose steps are careful no serial is given out twice and every poll
is right; and where the next step is not careful, careful steps after it lead to where that fails. -/
theorem capture_reader (es : List CapEvent) (h : Along watchStep Careful Watch.start es) :
    Watched (exec watchStep Watch.start es) ∧
      ∀ e, ¬Careful (exec watchStep Watch.start es) e →
        ∃ es', Along watchStep Careful (exec watchStep Watch.start (es ++ [e])) es' ∧
          ¬Watched (exec watchStep Watch.start (es ++ [e] ++ es')) := by
  have htracked := exec_inv (fun _ _ h hcareful => h.step hcareful) es Watch.start tracked_start h
  refine ⟨htracked.watched, ?_⟩
  intro e he
  obtain ⟨es', halong, hbad⟩ := htracked.spoilt he
  refine ⟨es', ?_, ?_⟩
  · simpa [exec_append] using halong
  · simpa [exec_append] using hbad

theorem capture_reader_once : ∃ a : Arriving,
    Along watchStep Careful Watch.start [.ringEnable true true, .frame a true, .poll 256] ∧
      Watched (exec watchStep Watch.start [.ringEnable true true, .frame a true, .poll 256]) := by
  let a : Arriving := ⟨.rx, some [1, 2, 3], 0, 0⟩
  have hcareful : Along watchStep Careful Watch.start [.ringEnable true true, .frame a true, .poll 256] := by
    simp only [along_cons, along_nil, and_true]
    refine ⟨?_, ?_, trivial⟩
    · intro hno
      cases hno
    · intro _
      decide
  exact ⟨a, hcareful, (capture_reader _ hcareful).1⟩

theorem capture_reader_cleared : ∃ a b : Arriving, a ≠ b ∧
    ¬Watched (exec watchStep Watch.start [.ringEnable true true, .frame a true, .clear, .frame b true]) ∧
    ¬Watched (exec watchStep Watch.start [.ringEnable true true, .frame a true, .ringEnable false false]) := by
  refine ⟨⟨.rx, some [1, 2, 3], 0, 0⟩, ⟨.tx, some [4, 5], 1, 0⟩, by simp, ?_, ?_⟩
  · intro hwatched
    have hnodup := hwatched.serials
    revert hnodup
    decide
  · intro hwatched
    rcases hwatched.polls 256 with hframes | ⟨-, holdest⟩
    · cases hframes
    · revert holdest
      decide

end RpcEmu.Net
