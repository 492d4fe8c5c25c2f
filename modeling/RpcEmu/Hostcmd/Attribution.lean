import RpcEmu.Hostcmd.Accounting

/-!
# Output and return codes go to the party they belong to

The guest runs one command at a time.  `Hearing` keeps beside the gateway whose command is in the slot, whose command
the guest runs, and what that one has printed; none of this is known to the source, which goes by its flags.  `Attributing` says for which steps they are enough.
-/

namespace RpcEmu.Hostcmd

open Runs

/-! ## What the guest is doing -/

structure Hearing where
  hc : State
  slot : Option Party
  running : Option Party
  said : List UInt8

def collectable (s : State) (bufsize : UInt32) : Bool :=
  s.cmdPending && !s.cmdInflight && s.cmdLine.length + 1 ≤ bufsize.toNat

def slotAfter (s : State) (slot : Option Party) : Event → Option Party
  | .reset => if s.initialised then none else slot
  | e => (settleAll (some slot) (act s e).log).join

def runningAfter (s : State) (slot running : Option Party) : Event → Option Party
  | .poll _ bufsize _ => if collectable s bufsize then slot else running
  | .status marker _ => if marker = statusEnd then none else running
  | .reset => if s.initialised then none else running
  | _ => running

def saidAfter (s : State) (said : List UInt8) : Event → List UInt8
  | .poll _ bufsize _ => if collectable s bufsize then [] else said
  | .output load _ ptr len => said ++ loadBytes load ptr len.toNat
  | _ => said

def hear (w : Hearing) (e : Event) : Hearing where
  hc := step w.hc e
  slot := slotAfter w.hc.fresh w.slot e
  running := runningAfter w.hc.fresh w.slot w.running e
  said := saidAfter w.hc.fresh w.said e

def Hearing.start (listening : Bool) : Hearing := ⟨init listening, none, none, []⟩

/-- **The guest runs one command at a time**: none is delivered to it while it has one. -/
def Disciplined (w : Hearing) : Event → Prop
  | .poll _ bufsize _ => collectable w.hc.fresh bufsize = true → w.running = none
  | _ => True

/-- **To whom it belongs.**  Output comes from the command that the guest runs, and so does the code it reports; the
gateway's own answer is to the party whose command is in the slot, and carries no output. -/
def Rightful (w : Hearing) (e : Event) : Happening → Prop
  | .frame c ⟨.output, payload⟩ => ∃ load alloc ptr len, e = .output load alloc ptr len ∧
      w.running = some (.client c) ∧ payload <+: loadBytes load ptr len.toNat
  | .frame c ⟨.done, payload⟩ =>
    (∃ rc, e = .status statusEnd rc ∧ w.running = some (.client c) ∧ payload = bigEndian rc) ∨
    ((∀ marker rc, e ≠ .status marker rc) ∧ w.slot = some (.client c) ∧ payload = bigEndian noAnswer)
  | .finished n rc output =>
    (e = .status statusEnd rc ∧ w.running = some (.internal n) ∧ output <+: w.said) ∨
    ((∀ marker rc, e ≠ .status marker rc) ∧ w.slot = some (.internal n) ∧ rc = noAnswer ∧ output = [])
  | _ => True

lemma Harmless.rightful {w : Hearing} {e : Event} {h : Happening} (hh : Harmless h) : Rightful w e h := by
  cases h with
  | frame c f =>
    obtain ⟨type, payload⟩ := f
    cases hh
    trivial
  | finished n rc output => exact hh.elim
  | _ => trivial

/-! ## The invariant -/

/-- What is captured is what was printed, from its beginning on, and all of it unless the capture has stopped. -/
structure Captured (s : State) (said : List UInt8) : Prop where
  first : s.internalOut <+: said
  all : s.internalOutFailed = false → s.internalOut.length < internalOutMax → s.internalOut = said

/-- A command with the guest is the one in the slot, and one that was given up there is the one `orphaned`
stands for. -/
structure Attributed (s : State) (slot running : Option Party) (said : List UInt8) : Prop where
  accounted : Accounted s slot
  inflight : s.cmdInflight = true → running = slot ∧ s.orphaned = 0
  idle : s.cmdInflight = false → s.orphaned = if running.isSome then 1 else 0
  queued : s.internalActive = true → s.cmdInflight = false → s.internalOut = [] ∧ s.internalOutFailed = false
  captured : s.internalActive = true → s.cmdInflight = true → Captured s said

variable {s t : State} {slot slot' running : Option Party} {said : List UInt8}

lemma Attributed.clientSide (h : Attributed s slot running said) {P : Happening → Prop} (hside : ClientSide P s t)
    (hslot : Accounted t slot') (hsame : t.cmdInflight = true → slot' = slot) : Attributed t slot' running said where
  accounted := hslot
  inflight hin := by
    obtain ⟨hrun, horphaned⟩ := h.inflight (hside.inflight ▸ hin)
    exact ⟨hrun.trans (hsame hin).symm, hside.orphaned.trans horphaned⟩
  idle hin := hside.orphaned.trans (h.idle (hside.inflight ▸ hin))
  queued hactive hin := by
    rw [hside.out, hside.failed]
    exact h.queued (hside.active ▸ hactive) (hside.inflight ▸ hin)
  captured hactive hin := by
    have hcap := h.captured (hside.active ▸ hactive) (hside.inflight ▸ hin)
    exact ⟨hside.out ▸ hcap.first, by rw [hside.out, hside.failed]; exact hcap.all⟩

lemma ClientSide.slot_eq {P : Happening → Prop} (hside : ClientSide P s t) (hslot : Accounted s slot)
    (hslot' : Accounted t slot') (hfd : ∀ c, s.clientFd = some c → t.clientFd = some c ∨ t.clientFd = none)
    (hin : t.cmdInflight = true) : slot' = slot := by
  cases hactive : s.internalActive with
  | true =>
    obtain ⟨n, rfl, hn⟩ := hslot.active_iff.mp hactive
    obtain ⟨n', rfl, hn'⟩ := hslot'.active_iff.mp (hside.active.trans hactive)
    rw [hside.done, hn] at hn'
    rw [Option.some.inj hn']
  | false =>
    obtain ⟨c, rfl⟩ := hslot.client_of_inflight (hside.inflight ▸ hin) hactive
    obtain ⟨c', rfl⟩ := hslot'.client_of_inflight hin (hside.active.trans hactive)
    rcases hfd c hslot.1 with hkept | hlost
    · rw [Option.some.inj (hkept.symm.trans hslot'.1)]
    · cases hlost.symm.trans hslot'.1

/-! ## The guest's output -/

lemma captured_internalCapture (h : Captured s said) (hactive : s.internalActive = true) (alloc : ℕ → Bool)
    (b : UInt8) : Captured (internalCapture s alloc [b]) (said ++ [b]) := by
  have hstay : s.internalOut <+: said ++ [b] := h.first.trans (List.prefix_append _ _)
  by_cases hfailed : s.internalOutFailed = true
  · have hstop : (!s.internalActive || s.internalOutFailed || [b].isEmpty) = true := by simp [hfailed]
    rw [internalCapture, if_pos hstop]
    exact ⟨hstay, fun hf => absurd (hfailed.symm.trans hf) (by decide)⟩
  · rw [Bool.not_eq_true] at hfailed
    have hgo : ¬ (!s.internalActive || s.internalOutFailed || [b].isEmpty) = true := by simp [hfailed, hactive]
    rw [internalCapture, if_neg hgo]
    by_cases hfull : internalOutMax < s.internalOut.length + 1
    · -- the cap is reached: the byte is cut off
      have hnone : internalOutMax - s.internalOut.length = 0 := by omega
      simp only [List.length_singleton, hfull, if_true, hnone, List.take_zero, List.isEmpty_nil]
      exact ⟨hstay, fun _ hlt => absurd hlt (by omega)⟩
    · have hall := h.all hfailed (by omega)
      have hmore : ∀ cap, Captured { s with internalOut := s.internalOut ++ [b], internalOutCap := cap } (said ++ [b]) := by
        intro cap
        have hsaid : s.internalOut ++ [b] = said ++ [b] := by rw [hall]
        exact ⟨hsaid ▸ List.prefix_rfl, fun _ _ => hsaid⟩
      simp only [List.length_singleton, hfull, if_false, List.isEmpty_cons, Bool.false_eq_true]
      split_ifs
      · exact hmore _
      · exact ⟨hstay, fun heq => by cases heq⟩
      · exact hmore _
      · exact ⟨hstay, fun heq => by cases heq⟩
      · exact hmore s.internalOutCap

lemma captured_all (h : Captured s said) (hactive : s.internalActive = true) (alloc : ℕ → Bool) (data : List UInt8) :
    Captured (data.foldl (fun s byte => internalCapture s alloc [byte]) s) (said ++ data) := by
  induction data generalizing s said with
  | nil =>
    rw [List.append_nil]
    exact h
  | cons b data ih =>
    obtain ⟨out, cap, failed, hone⟩ := internalCapture_cases s alloc [b]
    have hnext := ih (captured_internalCapture h hactive alloc b) (by rw [hone]; exact hactive)
    rwa [List.append_assoc, List.singleton_append] at hnext

/-- The output is the slot's command's, or reaches nobody. -/
def OutputExpected (s : State) : Prop :=
  s.cmdInflight = true ∨ (s.internalActive = false ∧ (s.clientFd = none ∨ 0 < s.orphaned))

lemma attributed_swiOutput (h : Attributed s slot running said) (load : UInt32 → UInt8) (alloc : ℕ → Bool)
    (ptr len : UInt32) (hexp : len ≠ 0 → OutputExpected s) :
    Attributed (swiOutput s load alloc ptr len).2 slot running (said ++ loadBytes load ptr len.toNat) := by
  rcases swiOutput_cases s load alloc ptr len with ⟨hactive, heq⟩ | ⟨hidle, heq⟩ | ⟨c, hidle, -, -, -, heq⟩
  · obtain ⟨out, cap, failed, hall⟩ := captureAll_cases s alloc (loadBytes load ptr len.toNat)
    rw [heq]
    have hcaptured : s.cmdInflight = true → Captured
        ((loadBytes load ptr len.toNat).foldl (fun s byte => internalCapture s alloc [byte]) s)
        (said ++ loadBytes load ptr len.toNat) := fun hin => captured_all (h.captured hactive hin) hactive alloc _
    have hnothing : s.cmdInflight = false → loadBytes load ptr len.toNat = [] := by
      intro hin
      have hzero : len = 0 := by
        by_contra hne
        rcases hexp hne with hin' | ⟨hidle, -⟩
        · exact absurd (hin'.symm.trans hin) (by decide)
        · exact absurd (hactive.symm.trans hidle) (by decide)
      rw [hzero]
      rfl
    rw [hall] at hcaptured ⊢
    refine ⟨h.accounted.congr rfl rfl rfl rfl rfl, h.inflight, h.idle, ?_, fun _ => hcaptured⟩
    intro _ hin
    have hsame : s = { s with internalOut := out, internalOutCap := cap, internalOutFailed := failed } := by
      rw [← hall, hnothing hin]
      rfl
    rw [← hsame]
    exact h.queued hactive hin
  · rw [heq]
    refine ⟨h.accounted, h.inflight, h.idle, h.queued, ?_⟩
    intro hactive
    exact absurd (hactive.symm.trans hidle) (by decide)
  · obtain ⟨ring, hput⟩ := putFrame_keeps s c ⟨.output, loadBytes load ptr (acceptable s len)⟩
    rw [heq, hput]
    refine ⟨h.accounted.congr rfl rfl rfl rfl rfl, h.inflight, h.idle, h.queued, ?_⟩
    intro hactive
    exact absurd (hactive.symm.trans hidle) (by decide)

/-! ## The other calls of the guest and the emulator -/

lemma swiPoll_eq (s : State) (bufptr bufsize : UInt32) (now : Int) :
    (swiPoll s bufptr bufsize now).2 =
      if collectable s bufsize then
        { s with guestRegistered := true, guestSeenMs := now, cmdPending := false, cmdInflight := true }.note
          (.delivered bufptr (s.cmdLine ++ [0]))
      else { s with guestRegistered := true, guestSeenMs := now } := by
  rw [swiPoll, collectable]
  simp only []
  by_cases hwaiting : (s.cmdPending && !s.cmdInflight) = true
  · by_cases hsmall : bufsize.toNat < s.cmdLine.length + 1
    · have hno : ¬ s.cmdLine.length + 1 ≤ bufsize.toNat := Nat.not_le.mpr hsmall
      simp [hwaiting, hsmall, hno]
    · have hfits : s.cmdLine.length + 1 ≤ bufsize.toNat := Nat.not_lt.mp hsmall
      simp [hwaiting, hsmall, hfits]
  · simp [hwaiting]

lemma attributed_swiPoll (h : Attributed s slot running said) (bufptr bufsize : UInt32) (now : Int)
    (hfree : collectable s bufsize = true → running = none) (hslot : Accounted (swiPoll s bufptr bufsize now).2 slot) :
    Attributed (swiPoll s bufptr bufsize now).2 slot (if collectable s bufsize then slot else running)
      (if collectable s bufsize then [] else said) := by
  rw [swiPoll_eq] at hslot ⊢
  split_ifs at hslot ⊢ with hcollect
  · obtain rfl := hfree hcollect
    rw [collectable, Bool.and_eq_true, Bool.and_eq_true, Bool.not_eq_true'] at hcollect
    refine ⟨hslot, fun _ => ⟨rfl, h.idle hcollect.1.2⟩, nofun, nofun, ?_⟩
    intro hactive _
    have hempty := (h.queued hactive hcollect.1.2).1
    exact ⟨hempty ▸ List.prefix_rfl, fun _ _ => hempty⟩
  · have hside : ClientSide Harmless s { s with guestRegistered := true, guestSeenMs := now } :=
      ⟨rfl, rfl, rfl, rfl, rfl, rfl, fun _ he => .inl he⟩
    exact h.clientSide hside hslot fun _ => rfl

lemma attributed_of_free (hslot : Accounted t slot) (hin : t.cmdInflight = false)
    (horphaned : t.orphaned = if running.isSome then 1 else 0)
    (hout : t.internalActive = true → t.internalOut = [] ∧ t.internalOutFailed = false) :
    Attributed t slot running said where
  accounted := hslot
  inflight hin' := absurd (hin'.symm.trans hin) (by decide)
  idle _ := horphaned
  queued hactive _ := hout hactive
  captured _ hin' := absurd (hin'.symm.trans hin) (by decide)

lemma Attributed.orphaned_eq_zero (h : Attributed s slot running said)
    (hno : ¬ (s.cmdInflight = false ∧ 0 < s.orphaned)) : s.orphaned = 0 := by
  cases hin : s.cmdInflight with
  | true => exact (h.inflight hin).2
  | false => exact Nat.eq_zero_of_not_pos fun hpos => hno ⟨hin, hpos⟩

lemma attributed_swiStatus (h : Attributed s slot running said) (rc : UInt32)
    (hslot : Accounted (swiStatus s statusEnd rc).2 slot') :
    Attributed (swiStatus s statusEnd rc).2 slot' none said := by
  rw [swiStatus] at hslot ⊢
  split_ifs at hslot ⊢ with hgone hactive
  · refine attributed_of_free hslot hgone.2.1 ?_ fun ha => h.queued ha hgone.2.1
    have hone := h.idle hgone.2.1
    change s.orphaned - 1 = 0
    split_ifs at hone <;> omega
  · have hzero := h.orphaned_eq_zero fun hboth => hgone ⟨rfl, hboth⟩
    obtain ⟨log, hkeeps⟩ := internalFinish_keeps { s with cmdInflight := false } rc
    rw [hkeeps] at hslot ⊢
    exact attributed_of_free hslot rfl hzero fun heq => by cases heq
  · have hzero := h.orphaned_eq_zero fun hboth => hgone ⟨rfl, hboth⟩
    obtain ⟨ring, log, hkeeps⟩ := pushFrame_keeps s ⟨.done, bigEndian rc⟩
    rw [hkeeps] at hslot ⊢
    refine attributed_of_free hslot rfl hzero fun ha => absurd ⟨rfl, ha⟩ hactive
  · exact absurd rfl ‹¬ statusEnd = statusEnd›

lemma attributed_internalSubmit (h : Attributed s slot running said) (command : List UInt8) (now : Int)
    (hslot : Accounted (internalSubmit s command now).2 slot') :
    Attributed (internalSubmit s command now).2 slot' running said := by
  have hsame : Accounted s slot' → Attributed s slot' running said := fun hacc =>
    h.clientSide (.refl (fun _ => True) s) hacc
      (ClientSide.slot_eq (.refl (fun _ => True) s) h.accounted hacc fun _ hc => .inl hc)
  rw [internalSubmit] at hslot ⊢
  simp only [] at hslot ⊢
  split_ifs at hslot ⊢ with _ _ hbusy
  · exact hsame hslot
  · exact hsame hslot
  · exact hsame hslot
  · rw [Bool.or_eq_true, not_or] at hbusy
    have hin := Bool.eq_false_of_not_eq_true hbusy.2
    exact attributed_of_free hslot rfl (h.idle hin) fun _ => ⟨rfl, rfl⟩

lemma attributed_internalAbandon (h : Attributed s slot running said) (hslot : Accounted (internalAbandon s) slot') :
    Attributed (internalAbandon s) slot' running said := by
  rw [internalAbandon] at hslot ⊢
  simp only [] at hslot ⊢
  split_ifs at hslot ⊢ with hidle hpending hinflight
  · exact h.clientSide (.refl (fun _ => True) s) hslot
      (ClientSide.slot_eq (.refl (fun _ => True) s) h.accounted hslot fun _ hc => .inl hc)
  all_goals
    rw [Bool.not_eq_true', Bool.not_eq_false] at hidle
    obtain ⟨n, rfl, -⟩ := h.accounted.active_iff.mp hidle
    have hone := h.accounted.2.2
  · change s.cmdPending = true at hpending
    rw [hpending, Bool.true_eq, Bool.not_eq_true'] at hone
    exact attributed_of_free hslot hone (h.idle hone) fun heq => by cases heq
  · change s.cmdInflight = true at hinflight
    obtain ⟨hrun, hzero⟩ := h.inflight hinflight
    refine attributed_of_free hslot rfl ?_ fun heq => by cases heq
    change s.orphaned + 1 = _
    rw [hzero, hrun]
    rfl
  · change ¬ s.cmdPending = true at hpending
    change ¬ s.cmdInflight = true at hinflight
    rw [Bool.not_eq_true] at hpending hinflight
    rw [hpending, hinflight] at hone
    cases hone

lemma attributed_hostcmdReset (s : State) (hinit : s.initialised = true) :
    Attributed (hostcmdReset s) none none said := by
  rw [hostcmdReset]
  generalize (if s.clientFd.isSome && s.cmdInflight then
    pushFrame (notice s "machine reset\n") ⟨.done, bigEndian noAnswer⟩ else s) = t
  simp only [hinit, Bool.not_true, Bool.false_eq_true, if_false]
  split_ifs with hactive
  · exact attributed_of_free ⟨rfl, rfl, rfl⟩ rfl rfl fun heq => by cases heq
  · exact attributed_of_free ⟨rfl, rfl, Bool.eq_false_of_not_eq_true hactive⟩ rfl rfl fun ha => absurd ha hactive

/-! ## The tick -/

/-- The client in flight has been given up. -/
structure Dropped (s t : State) : Prop where
  was : s.cmdInflight = true
  idle : s.internalActive = false
  inflight : t.cmdInflight = false
  orphaned : t.orphaned = s.orphaned + 1
  active : t.internalActive = false
  log : ∀ e ∈ t.log, e ∈ s.log ∨ Harmless e

lemma dropClient_cases (s : State) : ClientSide Harmless s (dropClient s) ∨ Dropped s (dropClient s) := by
  by_cases hgone : (s.cmdInflight && !s.internalActive) = true
  · have hclosed := clientSide_closeClient s
    have hdrop : dropClient s =
        { closeClient s with cmdInflight := false, orphaned := (closeClient s).orphaned + 1 } := by
      rw [dropClient]
      simp only [hclosed.inflight, hclosed.active, hgone, if_true]
    rw [Bool.and_eq_true, Bool.not_eq_true'] at hgone
    rw [hdrop]
    exact .inr ⟨hgone.1, hgone.2, rfl, congrArg (· + 1) hclosed.orphaned, hclosed.active.trans hgone.2, hclosed.log⟩
  · exact .inl (clientSide_dropClient (Bool.eq_false_of_not_eq_true hgone))

lemma ClientSide.dropped {s t u : State} (h : ClientSide Harmless s t) (h' : Dropped t u) : Dropped s u where
  was := h.inflight ▸ h'.was
  idle := h.active ▸ h'.idle
  inflight := h'.inflight
  orphaned := h'.orphaned.trans (congrArg (· + 1) h.orphaned)
  active := h'.active
  log e he := (h'.log e he).elim (h.log e) .inr

/-- **Serving the client** changes its side, or loses it while its command is with the guest. -/
lemma serveClient_cases (s : State) (c : ℕ) (tick : Tick) :
    ClientSide Harmless s (serveClient s c tick) ∨ Dropped s (serveClient s c tick) := by
  have hread := clientSide_serveIn s c tick
  rw [serveClient]
  simp only []
  split_ifs
  · exact .inl (.refl _ s)
  · exact dropClient_cases s
  · exact .inl hread
  · have hsent := hread.trans (clientSide_writeLoop c tick.sends (serveIn s c tick))
    rw [writeClient]
    simp only []
    split_ifs
    · rcases dropClient_cases (writeLoop c tick.sends (serveIn s c tick)).2 with hside | hdropped
      · exact .inl (hsent.trans hside)
      · exact .inr (hsent.dropped hdropped)
    · exact .inl hsent
  · exact .inl hread

lemma clientSide_acceptClient (s : State) (tick : Tick) : ClientSide Harmless s (acceptClient s tick) := by
  rw [acceptClient]
  simp only []
  split_ifs
  · exact ⟨rfl, rfl, rfl, rfl, rfl, rfl, fun _ he => .inl he⟩
  · refine ClientSide.trans ?_ (clientSide_notice _ _)
    refine ClientSide.note ?_ trivial
    exact ⟨rfl, rfl, rfl, rfl, rfl, rfl, fun _ he => .inl he⟩
  · exact ⟨rfl, rfl, rfl, rfl, rfl, rfl, fun _ he => .inl he⟩

lemma clientFd_writeClient {s : State} {c : ℕ} (hc : s.clientFd = some c) (results : List SendResult) :
    (writeClient s c results).clientFd = some c ∨ (writeClient s c results).clientFd = none := by
  obtain ⟨ring, sends, heq, -⟩ := writeLoop_cases c results s
  rw [writeClient]
  simp only []
  split_ifs
  · exact .inr (clientFd_dropClient _)
  · rw [heq]
    exact .inl hc

lemma clientFd_serveClient {s : State} {c : ℕ} (hc : s.clientFd = some c) (tick : Tick) :
    (serveClient s c tick).clientFd = some c ∨ (serveClient s c tick).clientFd = none := by
  have hread := clientFd_serveIn hc tick
  rw [serveClient]
  simp only []
  split_ifs with _ _ hgone
  · exact .inl hc
  · exact .inr (clientFd_dropClient s)
  · exact hread
  · rcases hread with hkept | hlost
    · exact clientFd_writeClient hkept tick.sends
    · exact absurd (Option.isNone_iff_eq_none.mpr hlost) hgone
  · exact hread

/-- A command not yet in flight has been given up. -/
structure Expired (P : Happening → Prop) (s t : State) : Prop where
  was : s.cmdInflight = false
  inflight : t.cmdInflight = false
  orphaned : t.orphaned = s.orphaned
  active : t.internalActive = false
  log : ∀ e ∈ t.log, e ∈ s.log ∨ P e

/-- What is said is said to the slot's own party. -/
def OwnAnswer (slot : Option Party) (e : Happening) : Prop :=
  Harmless e ∨ (∃ c, slot = some (.client c) ∧ e = .frame c ⟨.done, bigEndian noAnswer⟩) ∨
    ∃ n, slot = some (.internal n) ∧ e = .finished n noAnswer []

lemma ownAnswer_done {c : ℕ} : OwnAnswer (some (.client c)) (.frame c ⟨.done, bigEndian noAnswer⟩) :=
  .inr (.inl ⟨c, rfl, rfl⟩)

lemma ClientSide.mono {P Q : Happening → Prop} (h : ClientSide P s t) (hPQ : ∀ e, P e → Q e) : ClientSide Q s t :=
  { h with log := fun e he => (h.log e he).imp_right (hPQ e) }

lemma giveUp_cases (h : Attributed s slot running said) (hpending : s.cmdPending = true)
    (hin : s.cmdInflight = false) (why : String) :
    (ClientSide (OwnAnswer slot) s (giveUp s why) ∧ (giveUp s why).clientFd = s.clientFd) ∨
      Expired (OwnAnswer slot) s (giveUp s why) := by
  have hfreed : ClientSide (OwnAnswer slot) s { s with cmdPending := false, cmdLine := [] } :=
    ⟨rfl, rfl, rfl, rfl, rfl, rfl, fun _ he => .inl he⟩
  rw [giveUp]
  simp only []
  split_ifs with hactive hfd
  · obtain ⟨n, rfl, hn⟩ := h.accounted.active_iff.mp hactive
    have hout := (h.queued hactive hin).1
    refine .inr ⟨hin, ?_, ?_, ?_, ?_⟩
    all_goals
      rw [internalFinish]
      simp only [hn]
    · exact hin
    · rfl
    · rfl
    · intro e he
      rcases List.mem_append.mp he with hold | hnew
      · exact .inl hold
      · rw [List.mem_singleton.mp hnew, hout]
        exact .inr (.inr (.inr ⟨n, rfl, rfl⟩))
  · rw [Bool.not_eq_true] at hactive
    obtain ⟨c, rfl⟩ := h.accounted.client_of_pending hpending hactive
    have hfd' : ∀ msg, (notice { s with cmdPending := false, cmdLine := [] } msg).clientFd = s.clientFd :=
      fun msg => clientFd_pushFrame _ _
    refine .inl ⟨?_, (clientFd_pushFrame _ _).trans (hfd' _)⟩
    refine (hfreed.trans ((clientSide_notice _ _).mono fun _ => .inl)).trans (clientSide_pushFrame _ ?_)
    intro c' hc'
    have hcc : c = c' := Option.some.inj (h.accounted.1.symm.trans ((hfd' _).symm.trans hc'))
    subst hcc
    exact ⟨ownAnswer_done, .inl trivial⟩
  · exact .inl ⟨hfreed, rfl⟩

lemma expire_cases (h : Attributed s slot running said) (now later : Int) :
    (ClientSide (OwnAnswer slot) s (expirePendingCommand s now later) ∧
      (expirePendingCommand s now later).clientFd = s.clientFd) ∨
      Expired (OwnAnswer slot) s (expirePendingCommand s now later) := by
  rw [expirePendingCommand]
  split_ifs with hno
  · exact .inl ⟨.refl _ s, rfl⟩
  all_goals
    rw [Bool.or_eq_true, not_or, Bool.not_eq_true', Bool.not_eq_false, Bool.not_eq_true] at hno
  · exact .inl ⟨.refl _ s, rfl⟩
  · exact giveUp_cases h hno.1 hno.2 _
  · exact .inl ⟨.refl _ s, rfl⟩
  · exact giveUp_cases h hno.1 hno.2 _

lemma serve_cases (s : State) (tick : Tick) :
    (ClientSide Harmless s (serve s tick) ∧
      ∀ c, s.clientFd = some c → (serve s tick).clientFd = some c ∨ (serve s tick).clientFd = none) ∨
      Dropped s (serve s tick) := by
  rw [serve]
  cases hc : s.clientFd with
  | none => exact .inl ⟨clientSide_acceptClient s tick, fun c hc => by cases hc⟩
  | some c =>
    rcases serveClient_cases s c tick with hside | hdropped
    · refine .inl ⟨hside, ?_⟩
      rintro c' hc'
      cases Option.some.inj hc'
      exact clientFd_serveClient hc tick
    · exact .inr hdropped

lemma Attributed.dropped (h : Attributed s slot running said) (hdropped : Dropped s t) (hslot : Accounted t slot') :
    Attributed t slot' running said := by
  obtain ⟨hrun, hzero⟩ := h.inflight hdropped.was
  obtain ⟨c, rfl⟩ := h.accounted.client_of_inflight hdropped.was hdropped.idle
  refine attributed_of_free hslot hdropped.inflight ?_ fun ha => absurd (hdropped.active.symm.trans ha) (by decide)
  rw [hdropped.orphaned, hzero, hrun]
  rfl

lemma attributed_hostcmdPoll (h : Attributed s slot running said) (tick : Tick)
    (hslot : Accounted (hostcmdPoll s tick) slot') :
    Attributed (hostcmdPoll s tick) slot' running said ∧
      ∀ e ∈ (hostcmdPoll s tick).log, e ∈ s.log ∨ OwnAnswer slot e := by
  rw [hostcmdPoll] at hslot ⊢
  split_ifs at hslot ⊢
  · exact ⟨h.clientSide (.refl (fun _ => True) s) hslot
      (ClientSide.slot_eq (.refl (fun _ => True) s) h.accounted hslot fun _ hc => .inl hc), fun _ he => .inl he⟩
  · have hexpire := expire_cases h tick.now tick.later
    generalize expirePendingCommand s tick.now tick.later = t at hslot hexpire ⊢
    have hserve := serve_cases t tick
    generalize serve t tick = u at hslot hserve ⊢
    rcases hexpire with ⟨hside, hfd⟩ | hexpired
    · rcases hserve with ⟨hserved, hfd'⟩ | hdropped
      · have hboth := hside.trans (hserved.mono fun _ => .inl)
        refine ⟨h.clientSide hboth hslot (hboth.slot_eq h.accounted hslot fun c hc => hfd' c (hfd.trans hc)), hboth.log⟩
      · have hall : Dropped s { u with log := [] } :=
          ⟨hside.inflight ▸ hdropped.was, hside.active ▸ hdropped.idle, hdropped.inflight,
            hdropped.orphaned.trans (congrArg (· + 1) hside.orphaned), hdropped.active, fun _ he => absurd he List.not_mem_nil⟩
        have hfree := h.dropped hall (hslot.congr rfl rfl rfl rfl rfl)
        refine ⟨attributed_of_free hslot hall.inflight (hfree.idle hall.inflight) fun ha =>
          absurd (hall.active.symm.trans ha) (by decide), fun e he => ?_⟩
        exact (hdropped.log e he).elim (hside.log e) fun hharmless => .inr (.inl hharmless)
    · have hidle := h.idle hexpired.was
      rcases hserve with ⟨hserved, -⟩ | hdropped
      · refine ⟨attributed_of_free hslot (hserved.inflight.trans hexpired.inflight)
          ((hserved.orphaned.trans hexpired.orphaned).trans hidle) fun ha =>
            absurd ((hserved.active.trans hexpired.active).symm.trans ha) (by decide), fun e he => ?_⟩
        exact (hserved.log e he).elim (hexpired.log e) fun hharmless => .inr (.inl hharmless)
      · exact absurd (hdropped.was.symm.trans hexpired.inflight) (by decide)

/-! ## What goes out is rightful -/

variable {w : Hearing}

lemma OwnAnswer.rightful {e : Event} {h : Happening} (hown : OwnAnswer w.slot h)
    (he : ∀ marker rc, e ≠ .status marker rc) : Rightful w e h := by
  rcases hown with hharmless | ⟨c, hc, rfl⟩ | ⟨n, hn, rfl⟩
  · exact hharmless.rightful
  · exact .inr ⟨he, hc, rfl⟩
  · exact .inr ⟨he, hn, rfl, rfl⟩

lemma rightful_swiOutput (h : Attributed w.hc.fresh w.slot w.running w.said) (load : UInt32 → UInt8) (alloc : ℕ → Bool)
    (ptr len : UInt32) (hexp : len ≠ 0 → OutputExpected w.hc.fresh) :
    ∀ e ∈ (swiOutput w.hc.fresh load alloc ptr len).2.log, Rightful w (.output load alloc ptr len) e := by
  rcases swiOutput_cases w.hc.fresh load alloc ptr len with ⟨-, heq⟩ | ⟨-, heq⟩ | ⟨c, hidle, hc, hbusy, hpos, heq⟩
  · obtain ⟨out, cap, failed, hall⟩ := captureAll_cases w.hc.fresh alloc (loadBytes load ptr len.toNat)
    rw [heq, hall]
    exact fun _ he => absurd he List.not_mem_nil
  · rw [heq]
    exact fun _ he => absurd he List.not_mem_nil
  · rw [heq]
    intro e he
    rw [List.mem_singleton.mp he]
    have hle := (acceptable_le w.hc.fresh len).1
    have hin : w.hc.fresh.cmdInflight = true := by
      have hlen : len ≠ 0 := by
        rintro rfl
        exact absurd (Nat.lt_of_lt_of_le hpos hle) (by decide)
      rcases hexp hlen with hin | ⟨-, hnobody | hgone⟩
      · exact hin
      · cases hnobody.symm.trans hc
      · rcases hbusy with hin | hzero
        · exact hin
        · exact absurd hzero (Nat.pos_iff_ne_zero.mp hgone)
    obtain ⟨c', hc'⟩ := h.accounted.client_of_inflight hin hidle
    have hslot := h.accounted
    rw [hc'] at hslot
    have hcc : c = c' := Option.some.inj (hc.symm.trans hslot.1)
    refine ⟨load, alloc, ptr, len, rfl, ?_, ?_⟩
    · rw [(h.inflight hin).1, hc', hcc]
    · rw [← take_loadBytes load ptr hle]
      exact List.take_prefix _ _

lemma rightful_swiStatus (h : Attributed w.hc.fresh w.slot w.running w.said) (rc : UInt32)
    (hexp : ReportExpected w.hc.fresh) :
    ∀ e ∈ (swiStatus w.hc.fresh statusEnd rc).2.log, Rightful w (.status statusEnd rc) e := by
  rw [swiStatus]
  split_ifs with hgone hactive
  · exact fun _ he => absurd he List.not_mem_nil
  all_goals
    have hin : w.hc.fresh.internalActive = true ∨ w.hc.fresh.clientFd ≠ none → w.hc.fresh.cmdInflight = true := by
      intro hsomebody
      by_contra hno
      rcases hexp with hin | horphaned | ⟨hidle, hnobody⟩
      · exact hno hin
      · exact hgone ⟨rfl, Bool.eq_false_of_not_eq_true hno, horphaned⟩
      · rcases hsomebody with ha | hfd
        · exact absurd (ha.symm.trans hidle) (by decide)
        · exact hfd hnobody
  · obtain ⟨n, hslot, hn⟩ := h.accounted.active_iff.mp hactive.2
    have hin' := hin (.inl hactive.2)
    rw [internalFinish]
    simp only [hn]
    intro e he
    rw [List.mem_singleton.mp he]
    exact .inl ⟨rfl, (h.inflight hin').1.trans hslot, (h.captured hactive.2 hin').first⟩
  · have hidle : w.hc.fresh.internalActive = false := Bool.eq_false_of_not_eq_true fun ha => hactive ⟨rfl, ha⟩
    intro e he
    rcases pushFrame_cases w.hc.fresh ⟨.done, bigEndian rc⟩ with ⟨-, heq⟩ | ⟨c, ring, e', hc, he', heq⟩
    · change e ∈ (pushFrame w.hc.fresh ⟨.done, bigEndian rc⟩).log at he
      rw [heq] at he
      cases he
    · change e ∈ (pushFrame w.hc.fresh ⟨.done, bigEndian rc⟩).log at he
      rw [heq] at he
      rw [List.mem_singleton.mp he]
      rcases he' with rfl | rfl
      · have hin' := hin (.inr (by rw [hc]; exact Option.some_ne_none c))
        obtain ⟨c', hc'⟩ := h.accounted.client_of_inflight hin' hidle
        have hslot := h.accounted
        rw [hc'] at hslot
        have hcc : c = c' := Option.some.inj (hc.symm.trans hslot.1)
        exact .inl ⟨rc, rfl, by rw [(h.inflight hin').1, hc', hcc], rfl⟩
      · trivial
  · exact absurd rfl ‹¬ statusEnd = statusEnd›

/-- A reset does not find an internal command in flight with a client there. -/
def ResetHeard (s : State) : Prop := s.clientFd.isSome = true → s.cmdInflight = true → s.internalActive = false

lemma rightful_hostcmdReset (h : Attributed w.hc.fresh w.slot w.running w.said)
    (hheard : w.hc.fresh.initialised = true → ResetHeard w.hc.fresh) :
    ∀ e ∈ (hostcmdReset w.hc.fresh).log, Rightful w .reset e := by
  have hlog : (hostcmdReset w.hc.fresh).log = [] ∨ (w.hc.fresh.initialised = true ∧
      (w.hc.fresh.clientFd.isSome && w.hc.fresh.cmdInflight) = true ∧ (hostcmdReset w.hc.fresh).log =
        (pushFrame (notice w.hc.fresh "machine reset\n") ⟨.done, bigEndian noAnswer⟩).log) := by
    rw [hostcmdReset]
    simp only []
    split_ifs with hinit htell
    · exact .inl rfl
    all_goals first
      | exact .inr ⟨by simpa using hinit, htell, rfl⟩
      | exact .inl rfl
  rcases hlog with hnone | ⟨hinit, htell, hlog⟩
  · rw [hnone]
    exact fun _ he => absurd he List.not_mem_nil
  · rw [Bool.and_eq_true] at htell
    obtain ⟨c, hslot⟩ := h.accounted.client_of_inflight htell.2 (hheard hinit htell.1 htell.2)
    have hacc := h.accounted
    rw [hslot] at hacc
    have hpushed : ClientSide (OwnAnswer w.slot) (notice w.hc.fresh "machine reset\n")
        (pushFrame (notice w.hc.fresh "machine reset\n") ⟨.done, bigEndian noAnswer⟩) := by
      refine clientSide_pushFrame _ ?_
      intro c' hc'
      have hcc : c = c' := Option.some.inj (hacc.1.symm.trans ((clientFd_pushFrame _ _).symm.trans hc'))
      rw [hslot, ← hcc]
      exact ⟨ownAnswer_done, .inl trivial⟩
    have hall := ((clientSide_notice w.hc.fresh "machine reset\n").mono fun _ => .inl).trans hpushed
    intro e he
    rw [hlog] at he
    rcases hall.log e he with hold | hown
    · cases hold
    · exact hown.rightful fun _ _ heq => by cases heq

/-! ## Runs -/

/-- **What a step must not be**: output or a report that is not of the command in the slot, nor of one that was given
up while nobody else is spoken to; a reset while a client is connected and an internal command is with the guest; the
loss of the client while an internal command is queued. -/
def Attributing (s : State) : Event → Prop
  | .tick tick => s.listening = true → losesQueued s tick = false
  | .output _ _ _ len => len ≠ 0 → OutputExpected s
  | .status marker _ => marker = statusEnd → ReportExpected s
  | .reset => s.initialised = true → ResetHeard s
  | _ => True

/-- Along a run: the slot, the runner and what was said agree. -/
def Hearing.Attributed (w : Hearing) : Prop := Hostcmd.Attributed w.hc.fresh w.slot w.running w.said

lemma Attributed.fresh (h : Attributed s slot running said) : Attributed s.fresh slot running said :=
  h.clientSide (P := Harmless) ⟨rfl, rfl, rfl, rfl, rfl, rfl, nofun⟩ (h.accounted.congr rfl rfl rfl rfl rfl) fun _ => rfl

lemma slotAfter_eq {e : Event} (he : e ≠ .reset) (hbooks : Balanced (some slot) slot' (act s e)) :
    slotAfter s slot e = slot' := by
  have hsettled : slotAfter s slot e = (settleAll (some slot) (act s e).log).join := by
    cases e with
    | reset => exact absurd rfl he
    | _ => rfl
  rw [hsettled, hbooks.books]
  rfl

/-- **One step.**  All that goes out is rightful, and the flags stay with the truth. -/
lemma attributed_act (h : w.Attributed) (e : Event) (hguest : Disciplined w e) (hok : Attributing w.hc.fresh e) :
    (∀ x ∈ (step w.hc e).log, Rightful w e x) ∧ (hear w e).Attributed := by
  have hbalanced : Balanced (some w.slot) w.slot w.hc.fresh := ⟨rfl, h.accounted⟩
  have hacc : e ≠ .reset → Concluding w.hc.fresh e →
      Accounted (act w.hc.fresh e) (slotAfter w.hc.fresh w.slot e) := by
    intro hreset hconcluding
    obtain ⟨slot', hslot⟩ := balanced_act hbalanced e hconcluding
    rw [slotAfter_eq hreset hslot]
    exact hslot.slot
  cases e with
  | register now =>
    have hslot := hacc (fun heq => by cases heq) trivial
    have hside : ClientSide Harmless w.hc.fresh (act w.hc.fresh (.register now)) :=
      ⟨rfl, rfl, rfl, rfl, rfl, rfl, fun _ he => .inl he⟩
    exact ⟨fun _ he => absurd he List.not_mem_nil, Attributed.fresh (h.clientSide hside hslot
      (hside.slot_eq h.accounted hslot fun _ hc => .inl hc))⟩
  | poll bufptr bufsize now =>
    have hslot := slotAfter_eq (e := .poll bufptr bufsize now) (fun heq => by cases heq)
      (balanced_swiPoll hbalanced bufptr bufsize now)
    refine ⟨?_, ?_⟩
    · change ∀ x ∈ (swiPoll w.hc.fresh bufptr bufsize now).2.log, _
      rw [swiPoll_eq]
      split_ifs
      · intro x hx
        rw [List.mem_singleton.mp hx]
        trivial
      · exact fun _ he => absurd he List.not_mem_nil
    · change Hostcmd.Attributed _ (slotAfter w.hc.fresh w.slot (.poll bufptr bufsize now)) _ _
      rw [hslot]
      exact (attributed_swiPoll h bufptr bufsize now hguest (balanced_swiPoll hbalanced bufptr bufsize now).slot).fresh
  | output load alloc ptr len =>
    have hslot := slotAfter_eq (e := .output load alloc ptr len) (fun heq => by cases heq)
      (balanced_swiOutput hbalanced load alloc ptr len)
    refine ⟨rightful_swiOutput h load alloc ptr len hok, ?_⟩
    change Hostcmd.Attributed _ (slotAfter w.hc.fresh w.slot (.output load alloc ptr len)) _ _
    rw [hslot]
    exact (attributed_swiOutput h load alloc ptr len hok).fresh
  | status marker rc =>
    by_cases hend : marker = statusEnd
    · subst hend
      refine ⟨rightful_swiStatus h rc (hok rfl), ?_⟩
      change Hostcmd.Attributed _ _ (if statusEnd = statusEnd then none else w.running) _
      rw [if_pos rfl]
      exact (attributed_swiStatus h rc (hacc (fun heq => by cases heq) hok)).fresh
    · have hsame : step w.hc (.status marker rc) = w.hc.fresh := by
        change (swiStatus w.hc.fresh marker rc).2 = _
        rw [swiStatus, if_neg fun hboth => hend hboth.1, if_neg fun hboth => hend hboth.1, if_neg hend]
      refine ⟨by rw [hsame]; exact fun _ he => absurd he List.not_mem_nil, ?_⟩
      have hslot : slotAfter w.hc.fresh w.slot (.status marker rc) = w.slot := by
        change (settleAll (some w.slot) (step w.hc (.status marker rc)).log).join = _
        rw [hsame]
        rfl
      change Hostcmd.Attributed (step w.hc (.status marker rc)).fresh
        (slotAfter w.hc.fresh w.slot (.status marker rc)) (if marker = statusEnd then none else w.running) w.said
      rw [hsame, hslot, if_neg hend]
      exact h
  | submit command now =>
    refine ⟨?_, (attributed_internalSubmit h command now (hacc (fun heq => by cases heq) trivial)).fresh⟩
    change ∀ x ∈ (internalSubmit w.hc.fresh command now).2.log, _
    rw [internalSubmit]
    simp only []
    split_ifs
    · exact fun _ he => absurd he List.not_mem_nil
    · exact fun _ he => absurd he List.not_mem_nil
    · exact fun _ he => absurd he List.not_mem_nil
    · intro x hx
      rw [List.mem_singleton.mp hx]
      trivial
  | abandon =>
    refine ⟨?_, (attributed_internalAbandon h (hacc (fun heq => by cases heq) trivial)).fresh⟩
    change ∀ x ∈ (internalAbandon w.hc.fresh).log, _
    rw [internalAbandon]
    simp only []
    split_ifs
    · exact fun _ he => absurd he List.not_mem_nil
    all_goals
      intro x hx
      rw [List.mem_singleton.mp hx]
      trivial
  | reset =>
    refine ⟨rightful_hostcmdReset h hok, ?_⟩
    change Hostcmd.Attributed (hostcmdReset w.hc.fresh).fresh (if w.hc.initialised then none else w.slot)
      (if w.hc.initialised then none else w.running) w.said
    by_cases hinit : w.hc.initialised = true
    · rw [if_pos hinit, if_pos hinit]
      exact (attributed_hostcmdReset w.hc.fresh hinit).fresh
    · have hsame : hostcmdReset w.hc.fresh = w.hc.fresh := by
        rw [hostcmdReset, if_pos (by simpa [State.fresh] using hinit)]
      rw [if_neg hinit, if_neg hinit, hsame]
      exact h
  | tick tick =>
    obtain ⟨hnext, hlog⟩ := attributed_hostcmdPoll h tick (hacc (fun heq => by cases heq) hok)
    refine ⟨?_, hnext.fresh⟩
    intro x hx
    rcases hlog x hx with hold | hown
    · cases hold
    · exact hown.rightful fun _ _ heq => by cases heq

/-- **Everything goes to the party it belongs to**, in every run of a guest that runs one command at a time, as long
as every step is `Attributing`. -/
theorem output_reaches_its_party (listening : Bool) (es : List Event)
    (hguest : Along hear Disciplined (.start listening) es)
    (hok : Along hear (fun w e => Attributing w.hc.fresh e) (.start listening) es) :
    Along hear (fun w e => ∀ x ∈ (step w.hc e).log, Rightful w e x) (.start listening) es := by
  have hboth : Along hear (fun w e => Disciplined w e ∧ Attributing w.hc.fresh e) (.start listening) es :=
    fun v hv => ⟨hguest v hv, hok v hv⟩
  refine along_of_inv (I := Hearing.Attributed) (fun w e h he => (attributed_act h e he.1 he.2).2)
    (fun w e h he => (attributed_act h e he.1 he.2).1) es _ ?_ hboth
  exact attributed_of_free ⟨rfl, rfl, rfl⟩ rfl rfl nofun

instance (w : Hearing) : ∀ e, Decidable (Disciplined w e)
  | .poll _ bufsize _ => inferInstanceAs (Decidable (collectable w.hc.fresh bufsize = true → w.running = none))
  | .register _ => .isTrue trivial
  | .output _ _ _ _ => .isTrue trivial
  | .status _ _ => .isTrue trivial
  | .submit _ _ => .isTrue trivial
  | .abandon => .isTrue trivial
  | .reset => .isTrue trivial
  | .tick _ => .isTrue trivial

instance (s : State) : Decidable (OutputExpected s) :=
  inferInstanceAs (Decidable (s.cmdInflight = true ∨ (s.internalActive = false ∧ (s.clientFd = none ∨ 0 < s.orphaned))))

instance (s : State) : Decidable (ReportExpected s) :=
  inferInstanceAs (Decidable (s.cmdInflight = true ∨ 0 < s.orphaned ∨ (s.internalActive = false ∧ s.clientFd = none)))

instance (s : State) : Decidable (ResetHeard s) :=
  inferInstanceAs (Decidable (s.clientFd.isSome = true → s.cmdInflight = true → s.internalActive = false))

instance (s : State) : ∀ e, Decidable (Attributing s e)
  | .tick tick => inferInstanceAs (Decidable (s.listening = true → losesQueued s tick = false))
  | .output _ _ _ len => inferInstanceAs (Decidable (len ≠ 0 → OutputExpected s))
  | .status marker _ => inferInstanceAs (Decidable (marker = statusEnd → ReportExpected s))
  | .reset => inferInstanceAs (Decidable (s.initialised = true → ResetHeard s))
  | .register _ => .isTrue trivial
  | .poll _ _ _ => .isTrue trivial
  | .submit _ _ => .isTrue trivial
  | .abandon => .isTrue trivial

def shout : Event := .output (fun _ => 0x21) (fun _ => true) 0x8000 1

theorem output_reaches_its_party_internal :
    let es := List.replicate 64 (.tick knock) ++
      [.register 0, .submit [0x2a] 0, .poll 0x8000 256 0, shout, .status statusEnd 7]
    Along hear (fun w e => ∀ x ∈ (step w.hc e).log, Rightful w e x) (.start true) es ∧
      (exec hear (Hearing.start true) es).hc.log = [.finished 0 7 [0x21]] :=
  ⟨output_reaches_its_party true _ (by decide +kernel) (by decide +kernel), by decide +kernel⟩

/-- **Output of a command that was given up is handed to the next caller.**  The guest is disciplined; the second
command prints nothing, and its caller gets the character that the first one printed. -/
theorem output_of_another :
    let es : List Event := [.register 0, .submit [0x2a] 0, .poll 0x8000 256 0, .abandon, .submit [0x2b] 0, shout,
      .status statusEnd 0, .poll 0x8000 256 0]
    let w := exec hear (Hearing.start true) es
    Along hear Disciplined (.start true) (es ++ [.status statusEnd 0]) ∧
      w.running = some (.internal 1) ∧ w.said = [] ∧
      (step w.hc (.status statusEnd 0)).log = [.finished 1 0 [0x21]] ∧
      ¬ Rightful w (.status statusEnd 0) (.finished 1 0 [0x21]) := by
  refine ⟨by decide +kernel, by decide +kernel, by decide +kernel, by decide +kernel, ?_⟩
  rintro (⟨-, -, hsaid⟩ | ⟨hno, -⟩)
  · have hempty : (exec hear (Hearing.start true) [.register 0, .submit [0x2a] 0, .poll 0x8000 256 0, .abandon,
      .submit [0x2b] 0, shout, .status statusEnd 0, .poll 0x8000 256 0]).said = [] := by decide +kernel
    rw [hempty] at hsaid
    exact absurd hsaid (by decide)
  · exact hno _ _ rfl

end RpcEmu.Hostcmd
