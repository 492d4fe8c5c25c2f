import RpcEmu.Hostcmd.OutputStream

/-!
# One conclusion for every command

A command that is in the slot is owed a conclusion: a 'D' frame to its client, or the call of its callback.  `settle`
keeps the books over what goes out; a conclusion that nobody is owed, or a command accepted while one is owed, leaves
them without a value.  `Concluding` says which steps keep them.
-/

namespace RpcEmu.Hostcmd

open Runs

/-! ## What single calls do -/

lemma pushFrame_cases (s : State) (f : Frame) :
    (s.clientFd = none ∧ pushFrame s f = s) ∨
      ∃ c ring e, s.clientFd = some c ∧ (e = .frame c f ∨ e = .noRoom c f) ∧
        pushFrame s f = { s with ring := ring }.note e := by
  rcases Option.eq_none_or_eq_some s.clientFd with hc | ⟨c, hc⟩
  · exact .inl ⟨hc, by rw [pushFrame, hc]⟩
  · have heq : pushFrame s f =
        if s.ring.free.toNat < f.payload.length + 5 then s.note (.noRoom c f) else putFrame s c f := by
      rw [pushFrame, hc]
    rw [heq]
    split_ifs
    · exact .inr ⟨c, s.ring, _, hc, .inr rfl, rfl⟩
    · exact .inr ⟨c, _, _, hc, .inl rfl, rfl⟩

lemma pushFrame_keeps (s : State) (f : Frame) : ∃ ring log, pushFrame s f = { s with ring := ring, log := log } := by
  rcases pushFrame_cases s f with ⟨-, heq⟩ | ⟨c, ring, e, -, -, heq⟩
  · exact ⟨_, _, heq⟩
  · exact ⟨_, _, heq⟩

lemma putFrame_keeps (s : State) (c : ℕ) (f : Frame) :
    ∃ ring, putFrame s c f = { s with ring := ring }.note (.frame c f) := ⟨_, rfl⟩

lemma writeLoop_cases (c : ℕ) (results : List SendResult) (s : State) :
    ∃ ring sends, (writeLoop c results s).2 = { s with ring := ring, log := s.log ++ sends } ∧
      ∀ e ∈ sends, ∃ bytes, e = .sent c bytes := by
  have hstop : ∃ ring sends, s = { s with ring := ring, log := s.log ++ sends } ∧
      ∀ e ∈ sends, ∃ bytes, e = Happening.sent c bytes := ⟨s.ring, [], by simp, by simp⟩
  induction results generalizing s with
  | nil => exact hstop
  | cons result results ih =>
    cases result with
    | failed =>
      rw [writeLoop]
      split_ifs
      · exact hstop
      · exact hstop
    | wouldBlock =>
      rw [writeLoop]
      split_ifs
      · exact hstop
      · exact hstop
    | sent n =>
      rw [writeLoop]
      simp only []
      split_ifs
      · exact hstop
      · exact hstop
      · obtain ⟨ring, sends, heq, hsends⟩ :=
          ih ({ s with ring := s.ring.sent (UInt64.ofNat (min n s.ring.contig.toNat)) }.note
            (.sent c (s.ring.offered (min n s.ring.contig.toNat)))) ⟨_, [], by simp [State.note]; rfl, by simp⟩
        refine ⟨ring, .sent c (s.ring.offered (min n s.ring.contig.toNat)) :: sends, ?_, ?_⟩
        · rw [heq]
          simp [State.note]
        · intro e he
          rcases List.mem_cons.mp he with hfirst | hlater
          · exact ⟨_, hfirst⟩
          · exact hsends e hlater

lemma internalCapture_cases (s : State) (alloc : ℕ → Bool) (data : List UInt8) :
    ∃ out cap failed, internalCapture s alloc data =
      { s with internalOut := out, internalOutCap := cap, internalOutFailed := failed } := by
  rw [internalCapture]
  simp only []
  split_ifs
  all_goals exact ⟨_, _, _, rfl⟩

lemma captureAll_cases (s : State) (alloc : ℕ → Bool) (data : List UInt8) :
    ∃ out cap failed, data.foldl (fun s byte => internalCapture s alloc [byte]) s =
      { s with internalOut := out, internalOutCap := cap, internalOutFailed := failed } := by
  induction data generalizing s with
  | nil => exact ⟨_, _, _, rfl⟩
  | cons b data ih =>
    obtain ⟨out, cap, failed, hone⟩ := internalCapture_cases s alloc [b]
    obtain ⟨out', cap', failed', hall⟩ := ih (internalCapture s alloc [b])
    refine ⟨out', cap', failed', ?_⟩
    rw [List.foldl_cons, hall, hone]

lemma swiOutput_cases (s : State) (load : UInt32 → UInt8) (alloc : ℕ → Bool) (ptr len : UInt32) :
    (s.internalActive = true ∧ (swiOutput s load alloc ptr len).2 =
      (loadBytes load ptr len.toNat).foldl (fun s byte => internalCapture s alloc [byte]) s) ∨
    (s.internalActive = false ∧ (swiOutput s load alloc ptr len).2 = s) ∨
    ∃ c, s.internalActive = false ∧ s.clientFd = some c ∧ (s.cmdInflight = true ∨ s.orphaned = 0) ∧
      0 < acceptable s len ∧
      (swiOutput s load alloc ptr len).2 = putFrame s c ⟨.output, loadBytes load ptr (acceptable s len)⟩ := by
  cases hc : forClient s with
  | none =>
    rw [swiOutput]
    by_cases hactive : s.internalActive = true
    · rw [if_pos hactive]
      exact .inl ⟨hactive, rfl⟩
    · rw [if_neg hactive]
      refine .inr (.inl ⟨Bool.eq_false_of_not_eq_true hactive, ?_⟩)
      rw [forClient] at hc
      split_ifs at hc with hno
      · have hgone := ((Bool.or_eq_true _ _).mp hno).resolve_left hactive
        cases s.clientFd with
        | none => rfl
        | some c => simp only [hgone, if_true]
      · rw [hc]
  | some c =>
    rw [swiOutput_eq s load alloc ptr len hc]
    rw [forClient] at hc
    split_ifs at hc with hno
    rw [Bool.or_eq_true, not_or, Bool.and_eq_true, Bool.not_eq_true', decide_eq_true_eq] at hno
    split_ifs with hpos
    · refine .inr (.inr ⟨c, Bool.eq_false_of_not_eq_true hno.1, hc, ?_, hpos, rfl⟩)
      by_cases hin : s.cmdInflight = true
      · exact .inl hin
      · exact .inr (Nat.eq_zero_of_not_pos fun hpos => hno.2 ⟨Bool.eq_false_of_not_eq_true hin, hpos⟩)
    · exact .inr (.inl ⟨Bool.eq_false_of_not_eq_true hno.1, rfl⟩)

/-- Nothing here ends a command. -/
def Harmless : Happening → Prop
  | .frame _ f => f.type = .notice
  | .finished _ _ _ => False
  | _ => True

/-- What the guest and the emulator have to do with is as it was: only the client's side has changed, and what went
out is as `P` says. -/
structure ClientSide (P : Happening → Prop) (s t : State) : Prop where
  inflight : t.cmdInflight = s.cmdInflight
  orphaned : t.orphaned = s.orphaned
  active : t.internalActive = s.internalActive
  done : t.internalDone = s.internalDone
  out : t.internalOut = s.internalOut
  failed : t.internalOutFailed = s.internalOutFailed
  log : ∀ e ∈ t.log, e ∈ s.log ∨ P e

lemma ClientSide.refl (P : Happening → Prop) (s : State) : ClientSide P s s :=
  ⟨rfl, rfl, rfl, rfl, rfl, rfl, fun _ he => .inl he⟩

lemma ClientSide.trans {P : Happening → Prop} {s t u : State} (h : ClientSide P s t) (h' : ClientSide P t u) :
    ClientSide P s u where
  inflight := h'.inflight.trans h.inflight
  orphaned := h'.orphaned.trans h.orphaned
  active := h'.active.trans h.active
  done := h'.done.trans h.done
  out := h'.out.trans h.out
  failed := h'.failed.trans h.failed
  log e he := (h'.log e he).elim (h.log e) .inr

lemma ClientSide.note {P : Happening → Prop} {s t : State} (h : ClientSide P s t) {e : Happening} (he : P e) :
    ClientSide P s (t.note e) :=
  { h with
    log := by
      intro e' he'
      rcases List.mem_append.mp he' with hold | hnew
      · exact h.log e' hold
      · rw [List.mem_singleton.mp hnew]
        exact .inr he }

lemma clientSide_pushFrame {P : Happening → Prop} (s : State) {f : Frame}
    (hf : ∀ c, s.clientFd = some c → P (.frame c f) ∧ P (.noRoom c f)) : ClientSide P s (pushFrame s f) := by
  rcases pushFrame_cases s f with ⟨-, heq⟩ | ⟨c, ring, e, hc, he, heq⟩
  · rw [heq]
    exact .refl P s
  · have hring : ClientSide P s { s with ring := ring } := ⟨rfl, rfl, rfl, rfl, rfl, rfl, fun _ he => .inl he⟩
    rw [heq]
    refine hring.note ?_
    rcases he with rfl | rfl
    · exact (hf c hc).1
    · exact (hf c hc).2

lemma clientSide_notice (s : State) (msg : String) : ClientSide Harmless s (notice s msg) :=
  clientSide_pushFrame s fun _ _ => ⟨rfl, trivial⟩

lemma clientSide_takeLine (s : State) (c : ℕ) (now : Int) : ClientSide Harmless s (takeLine s c now) := by
  have hread : ClientSide Harmless s { s with inBuf := [] } :=
    ⟨rfl, rfl, rfl, rfl, rfl, rfl, fun _ he => .inl he⟩
  rw [takeLine]
  simp only []
  split_ifs
  · exact hread
  · exact hread.trans (clientSide_notice _ _)
  · refine ClientSide.note ?_ trivial
    exact ⟨rfl, rfl, rfl, rfl, rfl, rfl, fun _ he => .inl he⟩

lemma clientSide_readByte (s : State) (c : ℕ) (now : Int) (b : UInt8) :
    ClientSide Harmless s (readByte s c now b) := by
  have hended : ClientSide Harmless s { s with inOverflow := false } :=
    ⟨rfl, rfl, rfl, rfl, rfl, rfl, fun _ he => .inl he⟩
  rw [readByte]
  split_ifs
  · exact hended.trans (clientSide_notice _ _)
  · exact .refl _ s
  · exact clientSide_takeLine s c now
  · exact ⟨rfl, rfl, rfl, rfl, rfl, rfl, fun _ he => .inl he⟩
  · exact ⟨rfl, rfl, rfl, rfl, rfl, rfl, fun _ he => .inl he⟩

lemma clientSide_readAll (c : ℕ) (now : Int) (bytes : List UInt8) (s : State) :
    ClientSide Harmless s (bytes.foldl (fun s b => readByte s c now b) s) := by
  induction bytes generalizing s with
  | nil => exact .refl _ s
  | cons b bytes ih => exact (clientSide_readByte s c now b).trans (ih (readByte s c now b))

lemma clientSide_closeClient (s : State) : ClientSide Harmless s (closeClient s) := by
  have hclosed : ClientSide Harmless s { s with
      clientFd := none, inBuf := [], inOverflow := false, ring := s.ring.clear, cmdPending := false } :=
    ⟨rfl, rfl, rfl, rfl, rfl, rfl, fun _ he => .inl he⟩
  rw [closeClient]
  cases s.clientFd with
  | none => exact hclosed
  | some c => exact hclosed.note trivial

lemma clientSide_dropClient {s : State} (hno : (s.cmdInflight && !s.internalActive) = false) :
    ClientSide Harmless s (dropClient s) := by
  have hclosed := clientSide_closeClient s
  rw [dropClient]
  simp only [hclosed.inflight, hclosed.active, hno, Bool.false_eq_true, if_false]
  exact hclosed

lemma internalActive_dropClient (s : State) : (dropClient s).internalActive = s.internalActive := by
  rw [dropClient]
  split_ifs
  · exact (clientSide_closeClient s).active
  · exact (clientSide_closeClient s).active

lemma clientSide_readClient {s : State} (hno : s.cmdInflight = false) (c : ℕ) (now : Int) (result : RecvResult) :
    ClientSide Harmless s (readClient s c now result) := by
  have hdrop : ClientSide Harmless s (dropClient s) := clientSide_dropClient (by rw [hno, Bool.false_and])
  cases result with
  | received bytes =>
    cases bytes with
    | nil => exact hdrop
    | cons b bytes =>
      rw [readClient]
      exact clientSide_readAll c now ((b :: bytes).take 4096) s
  | wouldBlock => exact .refl _ s
  | failed => exact hdrop

lemma clientSide_serveIn (s : State) (c : ℕ) (tick : Tick) : ClientSide Harmless s (serveIn s c tick) := by
  rw [serveIn]
  split_ifs with hin
  · rw [Bool.and_eq_true, wantsIn, Bool.and_eq_true, Bool.not_eq_true', Bool.not_eq_true'] at hin
    exact clientSide_readClient hin.1.2 c tick.lineNow tick.recv
  · exact .refl _ s

lemma clientSide_writeLoop (c : ℕ) (results : List SendResult) (s : State) :
    ClientSide Harmless s (writeLoop c results s).2 := by
  obtain ⟨ring, sends, heq, hsends⟩ := writeLoop_cases c results s
  rw [heq]
  refine ⟨rfl, rfl, rfl, rfl, rfl, rfl, ?_⟩
  intro e he
  rcases List.mem_append.mp he with hold | hnew
  · exact .inl hold
  · obtain ⟨bytes, rfl⟩ := hsends e hnew
    exact .inr trivial

/-! ## The books -/

/-- Nothing but `p` is owed, and `p` is answered. -/
def conclude (due : Option Party) (p : Party) : Option (Option Party) :=
  if due = some p then some none else none

/-- What is owed after a happening: `none` if the books do not balance. -/
def settle (due : Option Party) : Happening → Option (Option Party)
  | .accepted p => if due = none then some (some p) else none
  | .frame c f => if f.type = .done then conclude due (.client c) else some due
  | .noRoom c f => if f.type = .done then conclude due (.client c) else some due
  | .finished n _ _ => conclude due (.internal n)
  | .gone c => some (if due = some (.client c) then none else due)
  | .abandoned => some (due.filter fun p => match p with | .client _ => true | .internal _ => false)
  | .connected _ => some due
  | .delivered _ _ => some due
  | .sent _ _ => some due

def settleAll (books : Option (Option Party)) (log : List Happening) : Option (Option Party) :=
  log.foldl (fun b e => b.bind fun due => settle due e) books

lemma settleAll_note (books : Option (Option Party)) (s : State) (e : Happening) :
    settleAll books (s.note e).log = (settleAll books s.log).bind fun due => settle due e := by
  rw [State.note, settleAll, List.foldl_append]
  rfl

lemma settleAll_sends {c : ℕ} {log sends : List Happening} (books : Option (Option Party))
    (hsends : ∀ e ∈ sends, ∃ bytes, e = Happening.sent c bytes) :
    settleAll books (log ++ sends) = settleAll books log := by
  induction sends generalizing log with
  | nil => rw [List.append_nil]
  | cons e sends ih =>
    obtain ⟨bytes, rfl⟩ := hsends e List.mem_cons_self
    have hone : settleAll books (log ++ [.sent c bytes]) = settleAll books log := by
      rw [settleAll, List.foldl_append]
      exact Option.bind_fun_some _
    rw [← List.singleton_append, ← List.append_assoc,
      ih fun e he => hsends e (List.mem_cons_of_mem _ he), hone]

/-- The flags of the slot are what the books say is owed. -/
def Accounted (s : State) : Option Party → Prop
  | none => s.cmdPending = false ∧ s.cmdInflight = false ∧ s.internalActive = false
  | some (.client c) => s.clientFd = some c ∧ s.internalActive = false ∧ s.cmdPending = !s.cmdInflight
  | some (.internal n) => s.internalActive = true ∧ s.internalDone = some n ∧ s.cmdPending = !s.cmdInflight

/-- In the course of a step that began with `books`. -/
structure Balanced (books : Option (Option Party)) (due : Option Party) (s : State) : Prop where
  books : settleAll books s.log = some due
  slot : Accounted s due

variable {books : Option (Option Party)} {due : Option Party} {s : State}

lemma Accounted.congr {t : State} (h : Accounted s due) (hfd : t.clientFd = s.clientFd)
    (hpending : t.cmdPending = s.cmdPending) (hinflight : t.cmdInflight = s.cmdInflight)
    (hactive : t.internalActive = s.internalActive) (hdone : t.internalDone = s.internalDone) :
    Accounted t due := by
  cases due with
  | none =>
    simp only [Accounted, hpending, hinflight, hactive]
    exact h
  | some p =>
    cases p with
    | client c =>
      simp only [Accounted, hfd, hpending, hinflight, hactive]
      exact h
    | internal n =>
      simp only [Accounted, hpending, hinflight, hactive, hdone]
      exact h

lemma Accounted.eq_none (h : Accounted s due) (hpending : s.cmdPending = false) (hinflight : s.cmdInflight = false) :
    due = none := by
  cases due with
  | none => rfl
  | some p =>
    cases p with
    | client c => exact absurd (h.2.2.symm.trans hpending) (by rw [hinflight]; decide)
    | internal n => exact absurd (h.2.2.symm.trans hpending) (by rw [hinflight]; decide)

lemma Accounted.active_iff (h : Accounted s due) :
    s.internalActive = true ↔ ∃ n, due = some (.internal n) ∧ s.internalDone = some n := by
  cases due with
  | none => exact iff_of_false (by rw [h.2.2]; decide) (by rintro ⟨n, hn, -⟩; cases hn)
  | some p =>
    cases p with
    | client c => exact iff_of_false (by rw [h.2.1]; decide) (by rintro ⟨n, hn, -⟩; cases hn)
    | internal n => exact iff_of_true h.1 ⟨n, rfl, h.2.1⟩

lemma Accounted.client_of_inflight (h : Accounted s due) (hin : s.cmdInflight = true) (hidle : s.internalActive = false) :
    ∃ c, due = some (.client c) := by
  cases due with
  | none => exact absurd (h.2.1.symm.trans hin) (by decide)
  | some p =>
    cases p with
    | client c => exact ⟨c, rfl⟩
    | internal n => exact absurd (h.1.symm.trans hidle) (by decide)

lemma Accounted.client_of_pending (h : Accounted s due) (hp : s.cmdPending = true) (hidle : s.internalActive = false) :
    ∃ c, due = some (.client c) := by
  cases due with
  | none => exact absurd (h.1.symm.trans hp) (by decide)
  | some p =>
    cases p with
    | client c => exact ⟨c, rfl⟩
    | internal n => exact absurd (h.1.symm.trans hidle) (by decide)

lemma Accounted.nothing_of_nobody (h : Accounted s due) (hfd : s.clientFd = none) (hidle : s.internalActive = false) :
    due = none := by
  cases due with
  | none => rfl
  | some p =>
    cases p with
    | client c => cases hfd.symm.trans h.1
    | internal n => exact absurd (h.1.symm.trans hidle) (by decide)

lemma settleAll_pushFrame (books : Option (Option Party)) (s : State) {f : Frame} (hf : f.type ≠ .done) :
    settleAll books (pushFrame s f).log = settleAll books s.log := by
  rcases pushFrame_cases s f with ⟨-, heq⟩ | ⟨c, ring, e, -, he, heq⟩
  · rw [heq]
  · have hsettle : ∀ due, settle due e = some due := by
      intro due
      rcases he with rfl | rfl
      · exact if_neg hf
      · exact if_neg hf
    rw [heq, settleAll_note]
    simp only [hsettle]
    exact Option.bind_fun_some _

lemma Balanced.notice (h : Balanced books due s) {f : Frame} (hf : f.type ≠ .done) :
    Balanced books due (pushFrame s f) := by
  obtain ⟨ring, log, hkeeps⟩ := pushFrame_keeps s f
  refine ⟨(settleAll_pushFrame books s hf).trans h.books, ?_⟩
  rw [hkeeps]
  exact h.slot.congr rfl rfl rfl rfl rfl

lemma settleAll_pushDone (hbooks : settleAll books s.log = some due) {c : ℕ} (hc : s.clientFd = some c)
    {f : Frame} (hf : f.type = .done) : settleAll books (pushFrame s f).log = conclude due (.client c) := by
  rcases pushFrame_cases s f with ⟨hno, -⟩ | ⟨c', ring, e, hc', he, heq⟩
  · cases hno.symm.trans hc
  · cases Option.some.inj (hc'.symm.trans hc)
    rw [heq, settleAll_note]
    change (settleAll books s.log).bind _ = _
    rw [hbooks]
    rcases he with rfl | rfl
    · exact if_pos hf
    · exact if_pos hf

/-- **A 'D' frame** for the client that is owed one. -/
lemma books_pushDone {c : ℕ} (hbooks : settleAll books s.log = some (some (.client c))) (hc : s.clientFd = some c)
    {f : Frame} (hf : f.type = .done) : settleAll books (pushFrame s f).log = some none :=
  (settleAll_pushDone hbooks hc hf).trans (if_pos rfl)

/-- **The callback** of the internal command that is owed it. -/
lemma books_internalFinish {n : ℕ} (hbooks : settleAll books s.log = some (some (.internal n)))
    (hn : s.internalDone = some n) (rc : UInt32) : settleAll books (internalFinish s rc).log = some none := by
  rw [internalFinish, hn]
  simp only []
  rw [settleAll_note]
  change (settleAll books s.log).bind _ = _
  rw [hbooks]
  exact if_pos rfl

lemma internalFinish_keeps (s : State) (rc : UInt32) :
    ∃ log, internalFinish s rc = { noInternal s with log := log } := by
  rw [internalFinish]
  cases s.internalDone with
  | none => exact ⟨_, rfl⟩
  | some n => exact ⟨_, rfl⟩

lemma balanced_finish (rc : UInt32) (hbooks : settleAll books (internalFinish s rc).log = some none)
    (hpending : s.cmdPending = false) (hinflight : s.cmdInflight = false) :
    Balanced books none (internalFinish s rc) := by
  obtain ⟨log, heq⟩ := internalFinish_keeps s rc
  refine ⟨hbooks, ?_⟩
  rw [heq]
  exact ⟨hpending, hinflight, rfl⟩

/-! ## Each event -/

lemma balanced_swiPoll (h : Balanced books due s) (bufptr bufsize : UInt32) (now : Int) :
    Balanced books due (swiPoll s bufptr bufsize now).2 := by
  rw [swiPoll]
  simp only []
  split_ifs with hwaiting
  · exact ⟨h.books, h.slot.congr rfl rfl rfl rfl rfl⟩
  · rw [Bool.and_eq_true] at hwaiting
    refine ⟨?_, ?_⟩
    · rw [settleAll_note, h.books]
      rfl
    · cases due with
      | none => exact absurd (h.slot.1.symm.trans hwaiting.1) (by decide)
      | some p =>
        cases p with
        | client c => exact ⟨h.slot.1, h.slot.2.1, rfl⟩
        | internal n => exact ⟨h.slot.1, h.slot.2.1, rfl⟩
  · exact ⟨h.books, h.slot.congr rfl rfl rfl rfl rfl⟩

lemma balanced_swiOutput (h : Balanced books due s) (load : UInt32 → UInt8) (alloc : ℕ → Bool) (ptr len : UInt32) :
    Balanced books due (swiOutput s load alloc ptr len).2 := by
  rcases swiOutput_cases s load alloc ptr len with ⟨-, heq⟩ | ⟨-, heq⟩ | ⟨c, -, -, -, -, heq⟩
  · obtain ⟨out, cap, failed, hall⟩ := captureAll_cases s alloc (loadBytes load ptr len.toNat)
    rw [heq, hall]
    exact ⟨h.books, h.slot.congr rfl rfl rfl rfl rfl⟩
  · rw [heq]
    exact h
  · obtain ⟨ring, hput⟩ := putFrame_keeps s c ⟨.output, loadBytes load ptr (acceptable s len)⟩
    rw [heq, hput]
    refine ⟨?_, h.slot.congr rfl rfl rfl rfl rfl⟩
    rw [settleAll_note, h.books]
    rfl

/-- The report is of a command that was given, or there is nobody to tell. -/
def ReportExpected (s : State) : Prop :=
  s.cmdInflight = true ∨ 0 < s.orphaned ∨ (s.internalActive = false ∧ s.clientFd = none)

lemma balanced_swiStatus (h : Balanced books due s) (marker rc : UInt32)
    (hexp : marker = statusEnd → ReportExpected s) : ∃ due', Balanced books due' (swiStatus s marker rc).2 := by
  rw [swiStatus]
  split_ifs with hgone hactive hend
  · exact ⟨due, h.books, h.slot.congr rfl rfl rfl rfl rfl⟩
  · -- the internal command is with the guest: one that is only queued is not reported on
    obtain ⟨n, rfl, hn⟩ := h.slot.active_iff.mp hactive.2
    have hinflight : s.cmdInflight = true := by
      by_contra hno
      rw [Bool.not_eq_true] at hno
      rcases hexp hactive.1 with hin | horphaned | ⟨hidle, -⟩
      · exact absurd (hin.symm.trans hno) (by decide)
      · exact hgone ⟨hactive.1, hno, horphaned⟩
      · exact absurd (hactive.2.symm.trans hidle) (by decide)
    have hpending : s.cmdPending = false := by rw [h.slot.2.2, hinflight, Bool.not_true]
    exact ⟨none, balanced_finish (s := { s with cmdInflight := false }) rc
      (books_internalFinish (s := { s with cmdInflight := false }) h.books hn rc) hpending rfl⟩
  · have hidle : s.internalActive = false := Bool.eq_false_of_not_eq_true fun ha => hactive ⟨hend, ha⟩
    obtain ⟨ring, log, hkeeps⟩ := pushFrame_keeps s ⟨.done, bigEndian rc⟩
    have hpushed : settleAll books (pushFrame s ⟨.done, bigEndian rc⟩).log = some none ∧ s.cmdPending = false := by
      rcases hexp hend with hin | horphaned | ⟨-, hnobody⟩
      · obtain ⟨c, rfl⟩ := h.slot.client_of_inflight hin hidle
        exact ⟨books_pushDone h.books h.slot.1 rfl, by rw [h.slot.2.2, hin, Bool.not_true]⟩
      · have hin : s.cmdInflight = true := by
          by_contra hno
          exact hgone ⟨hend, Bool.eq_false_of_not_eq_true hno, horphaned⟩
        obtain ⟨c, rfl⟩ := h.slot.client_of_inflight hin hidle
        exact ⟨books_pushDone h.books h.slot.1 rfl, by rw [h.slot.2.2, hin, Bool.not_true]⟩
      · obtain rfl := h.slot.nothing_of_nobody hnobody hidle
        have hsame : pushFrame s ⟨.done, bigEndian rc⟩ = s := by rw [pushFrame, hnobody]
        rw [hsame]
        exact ⟨h.books, h.slot.1⟩
    refine ⟨none, hpushed.1, ?_⟩
    rw [hkeeps]
    exact ⟨hpushed.2, rfl, hidle⟩
  · exact ⟨due, h⟩

lemma balanced_internalSubmit (h : Balanced books due s) (command : List UInt8) (now : Int) :
    ∃ due', Balanced books due' (internalSubmit s command now).2 := by
  rw [internalSubmit]
  simp only []
  split_ifs with _ _ hbusy
  · exact ⟨due, h⟩
  · exact ⟨due, h⟩
  · exact ⟨due, h⟩
  · rw [Bool.or_eq_true, Bool.or_eq_true, not_or, not_or] at hbusy
    obtain rfl := h.slot.eq_none (Bool.eq_false_of_not_eq_true hbusy.1.2) (Bool.eq_false_of_not_eq_true hbusy.2)
    refine ⟨some (.internal s.submissions), ?_, rfl, rfl, rfl⟩
    rw [settleAll_note, h.books]
    rfl

lemma balanced_internalAbandon (h : Balanced books due s) : ∃ due', Balanced books due' (internalAbandon s) := by
  rw [internalAbandon]
  simp only []
  split_ifs with hidle hpending hinflight
  · exact ⟨due, h⟩
  all_goals
    rw [Bool.not_eq_true', Bool.not_eq_false] at hidle
    obtain ⟨n, rfl, -⟩ := h.slot.active_iff.mp hidle
    have hbooks : settleAll books ({ s with internalDone := none }.note .abandoned).log = some none := by
      rw [settleAll_note]
      change (settleAll books s.log).bind _ = _
      rw [h.books]
      rfl
    have hone := h.slot.2.2
  · change s.cmdPending = true at hpending
    refine ⟨none, hbooks, rfl, ?_, rfl⟩
    change s.cmdInflight = false
    rwa [hpending, Bool.true_eq, Bool.not_eq_true'] at hone
  · change ¬ s.cmdPending = true at hpending
    exact ⟨none, hbooks, Bool.eq_false_of_not_eq_true hpending, rfl, rfl⟩
  · change ¬ s.cmdPending = true at hpending
    change ¬ s.cmdInflight = true at hinflight
    rw [Bool.not_eq_true] at hpending hinflight
    rw [hpending, hinflight] at hone
    cases hone

/-- A reset owes nobody an answer. -/
def ResetAnswers (s : State) : Prop := s.cmdPending = false ∧ s.internalActive = false

lemma reset_tells (h : Balanced books due s) (hans : ResetAnswers s) :
    let t := if s.clientFd.isSome && s.cmdInflight then
        pushFrame (notice s "machine reset\n") ⟨.done, bigEndian noAnswer⟩
      else s
    settleAll books t.log = some none ∧ t.internalActive = false := by
  obtain ⟨hpending, hidle⟩ := hans
  intro t
  by_cases htell : (s.clientFd.isSome && s.cmdInflight) = true
  · have ht : t = pushFrame (notice s "machine reset\n") ⟨.done, bigEndian noAnswer⟩ := if_pos htell
    rw [Bool.and_eq_true] at htell
    obtain ⟨c, rfl⟩ := h.slot.client_of_inflight htell.2 hidle
    have hnoticed : Balanced books (some (.client c)) (notice s "machine reset\n") := h.notice (fun heq => by cases heq)
    obtain ⟨ring, log, hkeeps⟩ := pushFrame_keeps (notice s "machine reset\n") ⟨.done, bigEndian noAnswer⟩
    refine ⟨ht ▸ books_pushDone hnoticed.books hnoticed.slot.1 rfl, ?_⟩
    rw [ht, hkeeps]
    exact hnoticed.slot.2.1
  · have ht : t = s := if_neg htell
    refine ⟨?_, ht ▸ hidle⟩
    cases hin : s.cmdInflight with
    | false => rw [ht, h.books, h.slot.eq_none hpending hin]
    | true =>
      obtain ⟨c, rfl⟩ := h.slot.client_of_inflight hin hidle
      rw [h.slot.1, hin] at htell
      exact absurd rfl htell

lemma balanced_hostcmdReset (h : Balanced books due s) (hans : ResetAnswers s) :
    ∃ due', Balanced books due' (hostcmdReset s) := by
  have htells := reset_tells h hans
  rw [hostcmdReset]
  generalize (if s.clientFd.isSome && s.cmdInflight then
    pushFrame (notice s "machine reset\n") ⟨.done, bigEndian noAnswer⟩ else s) = t at htells ⊢
  simp only [] at htells ⊢
  split_ifs with _ hactive
  · exact ⟨due, h⟩
  · exact absurd (htells.2.symm.trans hactive) (by decide)
  · exact ⟨none, htells.1, rfl, rfl, htells.2⟩

/-! ## The tick -/

lemma balanced_dropClient (h : Balanced books due s) {c : ℕ} (hc : s.clientFd = some c)
    (hqueued : s.internalActive = true → s.cmdPending = false) : ∃ due', Balanced books due' (dropClient s) := by
  have hclose : closeClient s =
      { s with clientFd := none, inBuf := [], inOverflow := false, ring := s.ring.clear, cmdPending := false }.note
        (.gone c) := by
    rw [closeClient, hc]
  have hbooks : settleAll books (closeClient s).log = some (if due = some (.client c) then none else due) := by
    rw [hclose, settleAll_note]
    change (settleAll books s.log).bind _ = _
    rw [h.books]
    rfl
  rw [dropClient]
  simp only [hclose] at hbooks ⊢
  split_ifs with hgone
  · refine ⟨_, hbooks, ?_⟩
    change (s.cmdInflight && !s.internalActive) = true at hgone
    rw [Bool.and_eq_true, Bool.not_eq_true'] at hgone
    obtain ⟨c', rfl⟩ := h.slot.client_of_inflight hgone.1 hgone.2
    cases Option.some.inj (hc.symm.trans h.slot.1)
    rw [if_pos rfl]
    exact ⟨rfl, rfl, hgone.2⟩
  · refine ⟨_, hbooks, ?_⟩
    change ¬ (s.cmdInflight && !s.internalActive) = true at hgone
    cases due with
    | none => exact ⟨rfl, h.slot.2.1, h.slot.2.2⟩
    | some p =>
      cases p with
      | client c' =>
        cases Option.some.inj (hc.symm.trans h.slot.1)
        rw [if_pos rfl]
        rw [h.slot.2.1, Bool.not_false, Bool.and_true, Bool.not_eq_true] at hgone
        exact ⟨rfl, hgone, h.slot.2.1⟩
      | internal n =>
        rw [if_neg (fun heq => by cases heq)]
        refine ⟨h.slot.1, h.slot.2.1, ?_⟩
        have hone := h.slot.2.2
        rw [hqueued h.slot.1] at hone
        exact hone

lemma balanced_giveUp (h : Balanced books due s) (hpending : s.cmdPending = true) (hin : s.cmdInflight = false)
    (why : String) : ∃ due', Balanced books due' (giveUp s why) := by
  rw [giveUp]
  simp only []
  split_ifs with hactive hfd
  · obtain ⟨n, rfl, hn⟩ := h.slot.active_iff.mp hactive
    exact ⟨none, balanced_finish (s := { s with cmdPending := false, cmdLine := [] }) noAnswer
      (books_internalFinish (s := { s with cmdPending := false, cmdLine := [] }) h.books hn noAnswer) rfl hin⟩
  · rw [Bool.not_eq_true] at hactive
    obtain ⟨c, rfl⟩ := h.slot.client_of_pending hpending hactive
    let t := { s with cmdPending := false, cmdLine := [] }
    obtain ⟨ring, log, hnotice⟩ := pushFrame_keeps t ⟨.notice, text ("RPCEmu: " ++ why ++ "\n")⟩
    obtain ⟨ring', log', hdone⟩ := pushFrame_keeps (notice t ("RPCEmu: " ++ why ++ "\n")) ⟨.done, bigEndian noAnswer⟩
    have hnoticed : settleAll books (notice t ("RPCEmu: " ++ why ++ "\n")).log = some (some (.client c)) := by
      rw [← h.books]
      exact settleAll_pushFrame books t (fun heq => by cases heq)
    refine ⟨none, books_pushDone hnoticed ?_ rfl, ?_⟩
    · rw [notice, hnotice]
      exact h.slot.1
    · rw [hdone, notice, hnotice]
      exact ⟨rfl, hin, hactive⟩
  · rw [Bool.not_eq_true] at hactive
    obtain ⟨c, rfl⟩ := h.slot.client_of_pending hpending hactive
    exact absurd (Option.isSome_iff_exists.mpr ⟨c, h.slot.1⟩) hfd

lemma balanced_expirePendingCommand (h : Balanced books due s) (now later : Int) :
    ∃ due', Balanced books due' (expirePendingCommand s now later) := by
  rw [expirePendingCommand]
  split_ifs with hno
  · exact ⟨due, h⟩
  all_goals
    rw [Bool.or_eq_true, not_or, Bool.not_eq_true', Bool.not_eq_false, Bool.not_eq_true] at hno
  · exact ⟨due, h⟩
  · exact balanced_giveUp h hno.1 hno.2 _
  · exact ⟨due, h⟩
  · exact balanced_giveUp h hno.1 hno.2 _

lemma balanced_takeLine (h : Balanced books due s) {c : ℕ} (hc : s.clientFd = some c) (now : Int) :
    ∃ due', Balanced books due' (takeLine s c now) := by
  have hread : Balanced books due { s with inBuf := [] } := ⟨h.books, h.slot.congr rfl rfl rfl rfl rfl⟩
  rw [takeLine]
  simp only []
  split_ifs with _ hbusy
  · exact ⟨due, hread⟩
  · exact ⟨due, hread.notice (fun heq => by cases heq)⟩
  · rw [Bool.or_eq_true, not_or] at hbusy
    have hin := Bool.eq_false_of_not_eq_true hbusy.2
    obtain rfl := h.slot.eq_none (Bool.eq_false_of_not_eq_true hbusy.1) hin
    refine ⟨some (.client c), ?_, hc, h.slot.2.2, ?_⟩
    · rw [settleAll_note]
      change (settleAll books s.log).bind _ = _
      rw [h.books]
      rfl
    · change true = !s.cmdInflight
      rw [hin, Bool.not_false]

lemma balanced_readByte (h : Balanced books due s) {c : ℕ} (hc : s.clientFd = some c) (now : Int) (b : UInt8) :
    ∃ due', Balanced books due' (readByte s c now b) := by
  rw [readByte]
  split_ifs
  · have hended : Balanced books due { s with inOverflow := false } := ⟨h.books, h.slot.congr rfl rfl rfl rfl rfl⟩
    exact ⟨due, hended.notice (fun heq => by cases heq)⟩
  · exact ⟨due, h⟩
  · exact balanced_takeLine h hc now
  · exact ⟨due, h.books, h.slot.congr rfl rfl rfl rfl rfl⟩
  · exact ⟨due, h.books, h.slot.congr rfl rfl rfl rfl rfl⟩

lemma balanced_readAll (h : Balanced books due s) {c : ℕ} (hc : s.clientFd = some c) (now : Int) (bytes : List UInt8) :
    ∃ due', Balanced books due' (bytes.foldl (fun s b => readByte s c now b) s) := by
  induction bytes generalizing s due with
  | nil => exact ⟨due, h⟩
  | cons b bytes ih =>
    obtain ⟨due', hone⟩ := balanced_readByte h hc now b
    exact ih hone ((clientFd_readByte s c now b).trans hc)

lemma balanced_readClient (h : Balanced books due s) {c : ℕ} (hc : s.clientFd = some c)
    (hqueued : s.internalActive = true → s.cmdPending = false) (now : Int) (result : RecvResult) :
    ∃ due', Balanced books due' (readClient s c now result) := by
  cases result with
  | received bytes =>
    cases bytes with
    | nil => exact balanced_dropClient h hc hqueued
    | cons b bytes =>
      rw [readClient]
      exact balanced_readAll h hc now ((b :: bytes).take 4096)
  | wouldBlock => exact ⟨due, h⟩
  | failed => exact balanced_dropClient h hc hqueued

lemma balanced_writeLoop (h : Balanced books due s) (c : ℕ) (results : List SendResult) :
    Balanced books due (writeLoop c results s).2 := by
  obtain ⟨ring, sends, heq, hsends⟩ := writeLoop_cases c results s
  rw [heq]
  exact ⟨(settleAll_sends books hsends).trans h.books, h.slot.congr rfl rfl rfl rfl rfl⟩

def connectionLost (s : State) (c : ℕ) (tick : Tick) : Bool :=
  wantsOut s && (tick.broken || (tick.writable && (writeLoop c tick.sends s).1))

lemma balanced_writeClient (h : Balanced books due s) {c : ℕ} (hc : s.clientFd = some c) (results : List SendResult)
    (hqueued : s.internalActive = true → s.cmdPending = true → (writeLoop c results s).1 = false) :
    ∃ due', Balanced books due' (writeClient s c results) := by
  have hloop := balanced_writeLoop h c results
  obtain ⟨ring, sends, heq, -⟩ := writeLoop_cases c results s
  rw [writeClient]
  simp only []
  split_ifs with hfailed
  · refine balanced_dropClient hloop (c := c) (by rw [heq]; exact hc) ?_
    rw [heq]
    intro hactive
    by_contra hpending
    exact absurd ((hqueued hactive (Bool.eq_true_of_not_eq_false hpending)).symm.trans hfailed) (by decide)
  · exact ⟨due, hloop⟩

lemma serveIn_busy {s : State} (c : ℕ) (tick : Tick) (hbusy : wantsIn s = false) : serveIn s c tick = s := by
  rw [serveIn, hbusy]
  rfl

lemma balanced_serveClient (h : Balanced books due s) {c : ℕ} (hc : s.clientFd = some c) (tick : Tick)
    (hkept : s.internalActive = true → s.cmdPending = true → connectionLost s c tick = false) :
    ∃ due', Balanced books due' (serveClient s c tick) := by
  rw [serveClient]
  simp only []
  cases hfree : wantsIn s with
  | true =>
    -- the slot is free: what is read can only be a client's
    rw [wantsIn, Bool.and_eq_true, Bool.not_eq_true', Bool.not_eq_true'] at hfree
    obtain rfl := h.slot.eq_none hfree.1 hfree.2
    have hidle := h.slot.2.2
    have hnot : s.internalActive = true → s.cmdPending = false := fun _ => hfree.1
    simp only [Bool.true_or, Bool.not_true, Bool.false_eq_true, if_false]
    split_ifs with hbroken hgone
    · exact balanced_dropClient h hc hnot
    all_goals
      obtain ⟨due', hread⟩ : ∃ due', Balanced books due' (serveIn s c tick) := by
        rw [serveIn]
        split_ifs
        · exact balanced_readClient h hc hnot tick.lineNow tick.recv
        · exact ⟨none, h⟩
    · exact ⟨due', hread⟩
    · rcases clientFd_serveIn hc tick with hkeptfd | hlost
      · refine balanced_writeClient hread hkeptfd tick.sends fun hactive => ?_
        have hstill := (clientSide_serveIn s c tick).active
        exact absurd ((hstill.trans hidle).symm.trans hactive) (by decide)
      · exact absurd (Option.isNone_iff_eq_none.mpr hlost) hgone
    · exact ⟨due', hread⟩
  | false =>
    rw [serveIn_busy c tick hfree]
    rw [connectionLost] at hkept
    simp only [Bool.false_or]
    split_ifs with hquiet hbroken hgone hout
    · exact ⟨due, h⟩
    · rw [Bool.not_eq_true', Bool.not_eq_false] at hquiet
      simp only [hquiet, hbroken, Bool.true_or, Bool.and_true] at hkept
      refine balanced_dropClient h hc fun hactive => ?_
      by_contra hpending
      exact absurd (hkept hactive (Bool.eq_true_of_not_eq_false hpending)) (by decide)
    · exact ⟨due, h⟩
    · rw [Bool.and_eq_true] at hout
      simp only [hout.1, hout.2, Bool.true_and, Bool.or_eq_false_iff] at hkept
      exact balanced_writeClient h hc tick.sends fun hactive hpending => (hkept hactive hpending).2
    · exact ⟨due, h⟩

lemma balanced_acceptClient (h : Balanced books due s) (hfd : s.clientFd = none) (tick : Tick) :
    Balanced books due (acceptClient s tick) := by
  rw [acceptClient]
  simp only []
  split_ifs
  · exact ⟨h.books, h.slot.congr rfl rfl rfl rfl rfl⟩
  · have hconnected : Balanced books due
        ({ s with
          sinceListenCheck := s.sinceListenCheck + 1, clientFd := some s.connections, inBuf := [], inOverflow := false,
          ring := s.ring.clear, connections := s.connections + 1 }.note (.connected s.connections)) := by
      refine ⟨?_, ?_⟩
      · rw [settleAll_note]
        change (settleAll books s.log).bind _ = _
        rw [h.books]
        rfl
      · cases due with
        | none => exact h.slot
        | some p =>
          cases p with
          | client c => cases hfd.symm.trans h.slot.1
          | internal n => exact h.slot
    exact hconnected.notice (fun heq => by cases heq)
  · exact ⟨h.books, h.slot.congr rfl rfl rfl rfl rfl⟩

/-! ## When the books stay balanced -/

def losesQueued (s : State) (tick : Tick) : Bool :=
  let t := expirePendingCommand s tick.now tick.later
  match t.clientFd with
  | none => false
  | some c => t.internalActive && t.cmdPending && connectionLost t c tick

/-- **What a step must not be**: the loss of the client while an internal command is queued, a reset while there is a
command that it does not answer, or a report that nobody expects. -/
def Concluding (s : State) : Event → Prop
  | .tick tick => s.listening = true → losesQueued s tick = false
  | .reset => s.initialised = true → ResetAnswers s
  | .status marker _ => marker = statusEnd → ReportExpected s
  | _ => True

lemma balanced_hostcmdPoll (h : Balanced books due s) (tick : Tick)
    (hkept : s.listening = true → losesQueued s tick = false) : ∃ due', Balanced books due' (hostcmdPoll s tick) := by
  rw [hostcmdPoll]
  split_ifs with hdeaf
  · exact ⟨due, h⟩
  · rw [Bool.not_eq_true', Bool.not_eq_false] at hdeaf
    have hkept' := hkept hdeaf
    obtain ⟨due', hexpired⟩ := balanced_expirePendingCommand h tick.now tick.later
    rw [losesQueued] at hkept'
    rw [serve]
    cases hc : (expirePendingCommand s tick.now tick.later).clientFd with
    | none => exact ⟨due', balanced_acceptClient hexpired hc tick⟩
    | some c =>
      rw [hc] at hkept'
      refine balanced_serveClient hexpired hc tick fun hactive hpending => ?_
      simpa only [hactive, hpending, Bool.true_and] using hkept'

/-- **A step that is `Concluding` keeps the books.** -/
lemma balanced_act (h : Balanced books due s) (e : Event) (he : Concluding s e) :
    ∃ due', Balanced books due' (act s e) := by
  cases e with
  | register now => exact ⟨due, h.books, h.slot.congr rfl rfl rfl rfl rfl⟩
  | poll bufptr bufsize now => exact ⟨due, balanced_swiPoll h bufptr bufsize now⟩
  | output load alloc ptr len => exact ⟨due, balanced_swiOutput h load alloc ptr len⟩
  | status marker rc => exact balanced_swiStatus h marker rc he
  | submit command now => exact balanced_internalSubmit h command now
  | abandon => exact balanced_internalAbandon h
  | reset =>
    by_cases hinit : s.initialised = true
    · exact balanced_hostcmdReset h (he hinit)
    · refine ⟨due, ?_⟩
      change Balanced books due (hostcmdReset s)
      rw [hostcmdReset, if_pos (by simpa using hinit)]
      exact h
  | tick tick => exact balanced_hostcmdPoll h tick he

/-! ## What the other steps do -/

/-- Between two steps: one flag of the slot at most, exactly one for an internal command, and the books balanced with
something owed exactly while the slot is taken. -/
def InOrder (books : Option (Option Party)) (s : State) : Prop :=
  ¬ (s.cmdPending = true ∧ s.cmdInflight = true) ∧
  (s.internalActive = true → s.cmdPending = !s.cmdInflight) ∧
  ∃ due, books = some due ∧ (due.isSome = true ↔ s.cmdPending = true ∨ s.cmdInflight = true)

lemma Accounted.inOrder (h : Accounted s due) : InOrder (some due) s := by
  cases due with
  | none =>
    obtain ⟨hp, hi, ha⟩ := h
    refine ⟨by simp [hp], by simp [ha], none, rfl, by simp [hp, hi]⟩
  | some p =>
    have hone : s.cmdPending = !s.cmdInflight := by
      cases p with
      | client c => exact h.2.2
      | internal n => exact h.2.2
    refine ⟨?_, fun _ => hone, some p, rfl, ?_⟩
    · rw [hone]
      cases s.cmdInflight <;> simp
    · rw [hone]
      cases s.cmdInflight <;> simp

lemma not_inOrder_of_stuck {books : Option (Option Party)} {s : State} (ha : s.internalActive = true)
    (hp : s.cmdPending = false) (hi : s.cmdInflight = false) : ¬ InOrder books s := by
  rintro ⟨-, hone, -⟩
  have h := hone ha
  rw [hp, hi] at h
  cases h

lemma not_inOrder_of_owing {books : Option (Option Party)} {s : State} (hb : books ≠ some none)
    (hp : s.cmdPending = false) (hi : s.cmdInflight = false) : ¬ InOrder books s := by
  rintro ⟨-, -, due, rfl, howed⟩
  cases due with
  | none => exact hb rfl
  | some p => simp [hp, hi] at howed

lemma not_inOrder_of_taken {s : State} (hp : s.cmdPending = true) : ¬ InOrder (some none) s := by
  rintro ⟨-, -, due, hdue, howed⟩
  cases hdue
  simp [hp] at howed

/-- **A client lost while an internal command is queued** takes the command out of the slot. -/
lemma stuck_dropClient {s : State} (ha : s.internalActive = true) (hi : s.cmdInflight = false) :
    (dropClient s).internalActive = true ∧ (dropClient s).cmdPending = false ∧ (dropClient s).cmdInflight = false := by
  have hclosed : (closeClient s).cmdPending = false ∧ (closeClient s).cmdInflight = false := by
    rw [closeClient]
    cases s.clientFd with
    | none => exact ⟨rfl, hi⟩
    | some c => exact ⟨rfl, hi⟩
  have hactive := (internalActive_dropClient s).trans ha
  refine ⟨hactive, ?_⟩
  rw [dropClient]
  simp only [hclosed.2, Bool.false_and, Bool.false_eq_true, if_false]
  exact ⟨hclosed.1, trivial⟩

lemma stuck_serveClient {s : State} {c : ℕ} (hc : s.clientFd = some c) {tick : Tick}
    (ha : s.internalActive = true) (hp : s.cmdPending = true) (hi : s.cmdInflight = false)
    (hlost : connectionLost s c tick = true) :
    (serveClient s c tick).internalActive = true ∧ (serveClient s c tick).cmdPending = false ∧
      (serveClient s c tick).cmdInflight = false := by
  rw [connectionLost, Bool.and_eq_true] at hlost
  have hbusy : wantsIn s = false := by rw [wantsIn, hp, Bool.not_true, Bool.false_and]
  rw [serveClient, serveIn_busy c tick hbusy]
  simp only [hlost.1, Bool.or_true, Bool.not_true, Bool.false_eq_true, if_false]
  by_cases hbroken : tick.broken = true
  · rw [if_pos hbroken]
    exact stuck_dropClient ha hi
  · have hsend := (Bool.or_eq_true _ _ ▸ hlost.2 : tick.broken = true ∨ _).resolve_left hbroken
    rw [Bool.and_eq_true] at hsend
    obtain ⟨ring, sends, heq, -⟩ := writeLoop_cases c tick.sends s
    simp only [if_neg hbroken, hc, Option.isNone_some, Bool.false_eq_true, if_false, hsend.1, Bool.and_true, if_true]
    rw [writeClient]
    simp only [hsend.2, if_true]
    exact stuck_dropClient (by rw [heq]; exact ha) (by rw [heq]; exact hi)

lemma not_inOrder_poll (h : Balanced books due s) {tick : Tick} (hlisten : s.listening = true)
    (hloses : losesQueued s tick = true) {books' : Option (Option Party)} : ¬ InOrder books' (hostcmdPoll s tick) := by
  obtain ⟨due', hexpired⟩ := balanced_expirePendingCommand h tick.now tick.later
  rw [losesQueued] at hloses
  rw [hostcmdPoll, serve]
  simp only [hlisten, Bool.not_true, Bool.false_eq_true, if_false]
  cases hc : (expirePendingCommand s tick.now tick.later).clientFd with
  | none =>
    rw [hc] at hloses
    cases hloses
  | some c =>
    rw [hc] at hloses
    simp only [Bool.and_eq_true] at hloses
    obtain ⟨⟨ha, hp⟩, hlost⟩ := hloses
    obtain ⟨n, rfl, -⟩ := hexpired.slot.active_iff.mp ha
    have hi : (expirePendingCommand s tick.now tick.later).cmdInflight = false := by
      have hone := hexpired.slot.2.2
      rwa [hp, Bool.true_eq, Bool.not_eq_true'] at hone
    obtain ⟨ha', hp', hi'⟩ := stuck_serveClient hc ha hp hi hlost
    exact not_inOrder_of_stuck ha' hp' hi'

/-- **A reset that does not answer** what is in the slot. -/
lemma not_inOrder_reset (h : Balanced books due s) (hinit : s.initialised = true) (hno : ¬ ResetAnswers s) :
    ¬ InOrder (settleAll books (hostcmdReset s).log) (hostcmdReset s) := by
  have hlog : (hostcmdReset s).log = (if s.clientFd.isSome && s.cmdInflight then
      pushFrame (notice s "machine reset\n") ⟨.done, bigEndian noAnswer⟩ else s).log ∧
      (hostcmdReset s).cmdPending = false ∧ (hostcmdReset s).cmdInflight = false := by
    rw [hostcmdReset]
    simp only [hinit, Bool.not_true, Bool.false_eq_true, if_false]
    split_ifs
    all_goals exact ⟨rfl, rfl, rfl⟩
  refine not_inOrder_of_owing ?_ hlog.2.1 hlog.2.2
  rw [hlog.1]
  by_cases htell : (s.clientFd.isSome && s.cmdInflight) = true
  · -- the command is with the guest, so it is an internal one
    rw [if_pos htell]
    rw [Bool.and_eq_true] at htell
    obtain ⟨c, hc⟩ := Option.isSome_iff_exists.mp htell.1
    have hone : ∀ p, due = some p → s.cmdPending = false := by
      rintro p rfl
      cases p with
      | client c => rw [h.slot.2.2, htell.2, Bool.not_true]
      | internal n => rw [h.slot.2.2, htell.2, Bool.not_true]
    have hactive : s.internalActive = true := by
      by_contra hidle
      rw [Bool.not_eq_true] at hidle
      obtain ⟨c, hdue⟩ := h.slot.client_of_inflight htell.2 hidle
      exact hno ⟨hone _ hdue, hidle⟩
    obtain ⟨n, rfl, -⟩ := h.slot.active_iff.mp hactive
    have hnoticed : Balanced books (some (.internal n)) (notice s "machine reset\n") := h.notice (fun heq => by cases heq)
    have hfd : (notice s "machine reset\n").clientFd = some c := (clientFd_pushFrame s _).trans hc
    rw [settleAll_pushDone hnoticed.books hfd rfl, conclude, if_neg (fun heq => by cases heq)]
    exact fun heq => by cases heq
  · rw [if_neg htell, h.books]
    rintro hnothing
    cases Option.some.inj hnothing
    exact hno ⟨h.slot.1, h.slot.2.2⟩

/-- **A report that nobody expects.** -/
lemma not_inOrder_status (h : Balanced books due s) {marker : UInt32} (rc : UInt32) (hend : marker = statusEnd)
    (hno : ¬ ReportExpected s) :
    ¬ InOrder (settleAll books (swiStatus s marker rc).2.log) (swiStatus s marker rc).2 := by
  rw [ReportExpected, not_or, not_or, Bool.not_eq_true] at hno
  obtain ⟨hin, horphaned, hsomebody⟩ := hno
  rw [swiStatus, if_neg fun hgone => horphaned hgone.2.2]
  by_cases hactive : s.internalActive = true
  · rw [if_pos ⟨hend, hactive⟩]
    obtain ⟨n, rfl, hn⟩ := h.slot.active_iff.mp hactive
    have hbooks := books_internalFinish (s := { s with cmdInflight := false }) h.books hn rc
    obtain ⟨log, hkeeps⟩ := internalFinish_keeps { s with cmdInflight := false } rc
    simp only [hbooks]
    refine not_inOrder_of_taken ?_
    rw [hkeeps]
    exact h.slot.2.2.trans (by rw [hin, Bool.not_false])
  · rw [if_neg fun hboth => hactive hboth.2, if_pos hend]
    rw [Bool.not_eq_true] at hactive
    obtain ⟨c, hc⟩ := Option.ne_none_iff_exists'.mp fun hnobody => hsomebody ⟨hactive, hnobody⟩
    obtain ⟨ring, log, hkeeps⟩ := pushFrame_keeps s ⟨.done, bigEndian rc⟩
    have hbooks := settleAll_pushDone h.books hc (f := ⟨.done, bigEndian rc⟩) rfl
    change ¬ InOrder (settleAll books (pushFrame s ⟨.done, bigEndian rc⟩).log) _
    rw [hbooks]
    cases due with
    | none =>
      rintro ⟨-, -, due, hdue, -⟩
      cases hdue
    | some p =>
      cases p with
      | client c' =>
        cases Option.some.inj (hc.symm.trans h.slot.1)
        rw [conclude, if_pos rfl]
        refine not_inOrder_of_taken ?_
        rw [hkeeps]
        exact h.slot.2.2.trans (by rw [hin, Bool.not_false])
      | internal n => exact absurd (h.slot.1.symm.trans hactive) (by decide)

/-- **A step that is not `Concluding` breaks the books.** -/
lemma not_inOrder_act (h : Balanced books due s) (e : Event) (he : ¬ Concluding s e) :
    ¬ InOrder (settleAll books (act s e).log) (act s e) := by
  cases e with
  | status marker rc =>
    rw [Concluding, Classical.not_imp] at he
    exact not_inOrder_status h rc he.1 he.2
  | reset =>
    rw [Concluding, Classical.not_imp] at he
    exact not_inOrder_reset h he.1 he.2
  | tick tick =>
    rw [Concluding, Classical.not_imp, Bool.not_eq_false] at he
    exact not_inOrder_poll h he.1 he.2
  | _ => exact absurd trivial he

/-! ## Runs -/

structure Ledger where
  hc : State
  books : Option (Option Party)

def keep (w : Ledger) (e : Event) : Ledger := ⟨step w.hc e, settleAll w.books (step w.hc e).log⟩

def Ledger.start (listening : Bool) : Ledger := ⟨init listening, some none⟩

/-- The books balance, and the slot is as they say. -/
def Ledger.Accounted (w : Ledger) : Prop := ∃ due, w.books = some due ∧ Hostcmd.Accounted w.hc due

lemma Ledger.Accounted.balanced {w : Ledger} (h : w.Accounted) : ∃ due, Balanced w.books due w.hc.fresh := by
  obtain ⟨due, hbooks, hslot⟩ := h
  exact ⟨due, hbooks, hslot.congr rfl rfl rfl rfl rfl⟩

lemma keep_accounted {w : Ledger} (h : w.Accounted) {e : Event} (he : Concluding w.hc.fresh e) :
    (keep w e).Accounted := by
  obtain ⟨due, hbalanced⟩ := h.balanced
  obtain ⟨due', hbooks, hslot⟩ := balanced_act hbalanced e he
  exact ⟨due', hbooks, hslot⟩

lemma concluding_iff {w : Ledger} (h : w.Accounted) (e : Event) :
    Concluding w.hc.fresh e ↔ InOrder (keep w e).books (keep w e).hc := by
  constructor
  · intro he
    obtain ⟨due, hbooks, hslot⟩ := keep_accounted h he
    rw [hbooks]
    exact hslot.inOrder
  · intro horder
    by_contra he
    obtain ⟨due, hbalanced⟩ := h.balanced
    exact not_inOrder_act hbalanced e he horder

/-- **The slot is in order after every step exactly if every step is `Concluding`.** -/
theorem slot_accounted (listening : Bool) (es : List Event) :
    Along keep (fun w e => Concluding w.hc.fresh e) (.start listening) es ↔
      Along keep (fun w e => InOrder (keep w e).books (keep w e).hc) (.start listening) es :=
  along_iff_of_inv (I := Ledger.Accounted) (fun _ _ h he => keep_accounted h he) (fun _ e h => concluding_iff h e)
    es _ ⟨none, rfl, rfl, rfl, rfl⟩

def hangUp : Tick := { knock with broken := true }

/-- **A client that hangs up takes the emulator's command with it.**  It is queued, then in no slot, and not
concluded. -/
theorem queued_command_lost :
    let w := exec keep (Ledger.start true)
      (List.replicate 64 (.tick knock) ++ [.register 0, .submit [0x2a] 0, .tick hangUp])
    w.hc.internalActive = true ∧ w.hc.cmdPending = false ∧ w.hc.cmdInflight = false ∧
      w.books = some (some (.internal 0)) := by
  decide +kernel

end RpcEmu.Hostcmd
