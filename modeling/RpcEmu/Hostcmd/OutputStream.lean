import RpcEmu.Hostcmd.Gateway

/-!
# What a client is sent

Three writers share the ring: frames that are put in whole or dropped whole, the output of the guest, cut to the room
there is, and the socket, which takes any part of what it is offered.

**`stream_of_whole_frames`** says what a client gets in every run, and `output_takes_what_it_drops` the case in which
the guest is told that bytes were accepted although they went nowhere.
-/

namespace RpcEmu.Hostcmd

open Runs

/-! ## The frames and the bytes of each connection -/

/-- For each connection, the frames put into the ring and the bytes the socket took. -/
structure Wires where
  frames : ℕ → List Frame
  sent : ℕ → List UInt8

def Wires.none : Wires := ⟨fun _ => [], fun _ => []⟩

def Wires.record (g : Wires) : Happening → Wires
  | .frame c f => { g with frames := Function.update g.frames c (g.frames c ++ [f]) }
  | .sent c bytes => { g with sent := Function.update g.sent c (g.sent c ++ bytes) }
  | _ => g

def Wires.after (g : Wires) (log : List Happening) : Wires := log.foldl Wires.record g

lemma Wires.after_note (g : Wires) (s : State) (h : Happening) :
    g.after (s.note h).log = (g.after s.log).record h := by
  rw [State.note, after, List.foldl_append]
  rfl

def wire (frames : List Frame) : List UInt8 := frames.flatMap Frame.wire

def printed (frames : List Frame) : List UInt8 :=
  (frames.filter fun f => f.type = .output).flatMap Frame.payload

lemma wire_append (fs gs : List Frame) : wire (fs ++ gs) = wire fs ++ wire gs := List.flatMap_append

@[simp] lemma wire_singleton (f : Frame) : wire [f] = f.wire := List.append_nil _

lemma printed_append (fs gs : List Frame) : printed (fs ++ gs) = printed fs ++ printed gs := by
  rw [printed, List.filter_append, List.flatMap_append]
  rfl

lemma printed_output (payload : List UInt8) : printed [⟨.output, payload⟩] = payload := List.append_nil _

lemma printed_other {f : Frame} (hf : f.type ≠ .output) : printed [f] = [] := by
  rw [printed, List.filter_cons_of_neg (by simpa using hf)]
  rfl

/-! ## The invariant -/

/-- In the course of a step: `g` is what was on the wires before it, and `taken` what the guest was told of. -/
structure Intact (taken : ℕ → List UInt8) (g : Wires) (s : State) : Prop where
  good : s.ring.Good
  current : ∀ c, s.clientFd = some c → c < s.connections
  fresh : ∀ c, s.connections ≤ c → (g.after s.log).frames c = [] ∧ (g.after s.log).sent c = []
  live : ∀ c, s.clientFd = some c →
    (g.after s.log).sent c ++ s.ring.unsent = wire ((g.after s.log).frames c)
  past : ∀ c, (g.after s.log).sent c <+: wire ((g.after s.log).frames c)
  printed : ∀ c, printed ((g.after s.log).frames c) = taken c
  short : ∀ c, ∀ f ∈ (g.after s.log).frames c, f.payload.length < 2 ^ 32

variable {taken : ℕ → List UInt8} {g : Wires} {s : State}

lemma Intact.congr (h : Intact taken g s) {t : State} (hring : t.ring = s.ring) (hfd : t.clientFd = s.clientFd)
    (hnumber : t.connections = s.connections) (hlog : t.log = s.log) : Intact taken g t where
  good := hring ▸ h.good
  current := by rw [hfd, hnumber]; exact h.current
  fresh := by rw [hnumber, hlog]; exact h.fresh
  live := by rw [hfd, hring, hlog]; exact h.live
  past := hlog ▸ h.past
  printed := hlog ▸ h.printed
  short := hlog ▸ h.short

lemma Intact.note (h : Intact taken g s) {e : Happening} (he : ∀ w : Wires, w.record e = w) :
    Intact taken g (s.note e) := by
  have hafter : g.after (s.note e).log = g.after s.log := by rw [Wires.after_note, he]
  exact
    { good := h.good
      current := h.current
      fresh := by rw [hafter]; exact h.fresh
      live := by rw [hafter]; exact h.live
      past := by rw [hafter]; exact h.past
      printed := by rw [hafter]; exact h.printed
      short := by rw [hafter]; exact h.short }

/-- **A frame that fits** is put in whole. -/
lemma Intact.putFrame (h : Intact taken g s) {c : ℕ} (hc : s.clientFd = some c) (f : Frame)
    (hroom : f.payload.length + 5 ≤ s.ring.free.toNat) :
    Intact (Function.update taken c (taken c ++ Hostcmd.printed [f])) g (Hostcmd.putFrame s c f) := by
  have hfree := h.good.toNat_free
  have hhead := OutRing.write_spec h.good (header f.type (UInt32.ofNat f.payload.length))
    (by rw [length_header]; omega)
  have hall := OutRing.write_spec hhead.1 f.payload
    (by rw [hhead.2, List.length_append, length_header]; omega)
  have hunsent : (Hostcmd.putFrame s c f).ring.unsent = s.ring.unsent ++ f.wire := by
    change ((s.ring.write (header f.type (UInt32.ofNat f.payload.length))).write f.payload).unsent = _
    rw [hall.2, hhead.2, Frame.wire, List.append_assoc]
  have hshort : f.payload.length < 2 ^ 32 := by omega
  have hlt := h.current c hc
  refine ⟨hall.1, h.current, ?_, ?_, ?_, ?_, ?_⟩
  all_goals
    intro d
    rw [Hostcmd.putFrame, Wires.after_note]
    simp only [Wires.record]
    by_cases hd : d = c
  · subst hd
    intro hge
    exact absurd hlt (Nat.not_lt.mpr hge)
  · rw [Function.update_of_ne hd]
    exact h.fresh d
  · subst hd
    intro _
    change _ ++ (Hostcmd.putFrame s d f).ring.unsent = _
    rw [Function.update_self, wire_append, wire_singleton, hunsent, ← List.append_assoc, h.live d hc]
  · intro hfd
    exact absurd (Option.some.inj (hfd.symm.trans hc)) hd
  · subst hd
    rw [Function.update_self, wire_append]
    exact (h.past d).trans (List.prefix_append _ _)
  · rw [Function.update_of_ne hd]
    exact h.past d
  · subst hd
    rw [Function.update_self, Function.update_self, printed_append, h.printed d]
  · rw [Function.update_of_ne hd, Function.update_of_ne hd]
    exact h.printed d
  · subst hd
    rw [Function.update_self]
    intro f' hf'
    rcases List.mem_append.mp hf' with hold | hnew
    · exact h.short d f' hold
    · rw [List.mem_singleton.mp hnew]
      exact hshort
  · rw [Function.update_of_ne hd]
    exact h.short d

lemma Intact.pushFrame (h : Intact taken g s) {f : Frame} (hf : f.type ≠ .output) :
    Intact taken g (pushFrame s f) := by
  rw [Hostcmd.pushFrame]
  cases hc : s.clientFd with
  | none => exact h
  | some c =>
    simp only []
    split_ifs with hfull
    · exact h.note fun _ => rfl
    · have hput := h.putFrame hc f (Nat.not_lt.mp hfull)
      rw [printed_other hf, List.append_nil, Function.update_eq_self] at hput
      exact hput

lemma Intact.notice (h : Intact taken g s) (msg : String) : Intact taken g (notice s msg) :=
  h.pushFrame nofun

lemma Intact.internalFinish (h : Intact taken g s) (rc : UInt32) : Intact taken g (internalFinish s rc) := by
  rw [Hostcmd.internalFinish]
  have hno : Intact taken g (noInternal s) := h.congr rfl rfl rfl rfl
  cases s.internalDone with
  | none => exact hno
  | some n => exact hno.note fun _ => rfl

lemma Intact.closeClient (h : Intact taken g s) : Intact taken g (closeClient s) := by
  have hclosed : Intact taken g { s with
      clientFd := none, inBuf := [], inOverflow := false, ring := s.ring.clear, cmdPending := false } :=
    { h with
      good := OutRing.good_clear s.ring
      current := by
        intro c hc
        cases hc
      live := by
        intro c hc
        cases hc }
  rw [Hostcmd.closeClient]
  cases s.clientFd with
  | none => exact hclosed
  | some c => exact hclosed.note fun _ => rfl

lemma Intact.dropClient (h : Intact taken g s) : Intact taken g (dropClient s) := by
  rw [Hostcmd.dropClient]
  split_ifs
  · exact h.closeClient.congr rfl rfl rfl rfl
  · exact h.closeClient

/-! ## One step -/

lemma Intact.internalCapture (h : Intact taken g s) (alloc : ℕ → Bool) (data : List UInt8) :
    Intact taken g (internalCapture s alloc data) := by
  rw [Hostcmd.internalCapture]
  simp only []
  split_ifs
  all_goals exact h.congr rfl rfl rfl rfl

lemma Intact.captureAll (h : Intact taken g s) (alloc : ℕ → Bool) (data : List UInt8) :
    Intact taken g (data.foldl (fun s byte => Hostcmd.internalCapture s alloc [byte]) s) := by
  induction data generalizing s with
  | nil => exact h
  | cons b data ih => exact ih (h.internalCapture alloc [b])

lemma Intact.takeLine (h : Intact taken g s) (c : ℕ) (now : Int) : Intact taken g (takeLine s c now) := by
  rw [Hostcmd.takeLine]
  have hread : Intact taken g { s with inBuf := [] } := h.congr rfl rfl rfl rfl
  simp only []
  split_ifs
  · exact hread
  · exact hread.notice _
  · refine Intact.note ?_ fun _ => rfl
    exact h.congr rfl rfl rfl rfl

lemma Intact.readByte (h : Intact taken g s) (c : ℕ) (now : Int) (b : UInt8) :
    Intact taken g (readByte s c now b) := by
  rw [Hostcmd.readByte]
  split_ifs
  · exact Intact.notice (s := { s with inOverflow := false }) (h.congr rfl rfl rfl rfl) _
  · exact h
  · exact h.takeLine c now
  · exact h.congr rfl rfl rfl rfl
  · exact h.congr rfl rfl rfl rfl

lemma Intact.readAll (h : Intact taken g s) (c : ℕ) (now : Int) (bytes : List UInt8) :
    Intact taken g (bytes.foldl (fun s b => Hostcmd.readByte s c now b) s) := by
  induction bytes generalizing s with
  | nil => exact h
  | cons b bytes ih => exact ih (h.readByte c now b)

lemma Intact.readClient (h : Intact taken g s) (c : ℕ) (now : Int) (result : RecvResult) :
    Intact taken g (readClient s c now result) := by
  cases result with
  | received bytes =>
    cases bytes with
    | nil => exact h.dropClient
    | cons b bytes =>
      rw [Hostcmd.readClient]
      exact h.readAll c now ((b :: bytes).take 4096)
  | wouldBlock => exact h
  | failed => exact h.dropClient

/-- **Bytes that were sent** are the next ones of what waits. -/
lemma Intact.sent (h : Intact taken g s) {c : ℕ} (hc : s.clientFd = some c) {n : ℕ} (hn : n ≤ s.ring.contig.toNat) :
    Intact taken g
      ({ s with ring := s.ring.sent (UInt64.ofNat n) }.note (.sent c (s.ring.offered n))) := by
  have hof : (UInt64.ofNat n).toNat = n :=
    UInt64.toNat_ofNat_of_lt' (Nat.lt_of_le_of_lt hn s.ring.contig.toNat_lt_size)
  obtain ⟨hgood, hunsent⟩ := OutRing.sent_spec h.good (n := UInt64.ofNat n) (by rw [hof]; exact hn)
  rw [hof] at hunsent
  have htake := OutRing.offered_eq_take h.good hn
  have hlt := h.current c hc
  have hlive : ((g.after s.log).sent c ++ s.ring.offered n) ++ s.ring.unsent.drop n = wire ((g.after s.log).frames c) := by
    rw [htake, List.append_assoc, List.take_append_drop, h.live c hc]
  refine ⟨hgood, h.current, ?_, ?_, ?_, ?_, ?_⟩
  all_goals
    intro d
    rw [Wires.after_note]
    simp only [Wires.record]
  · by_cases hd : d = c
    · subst hd
      intro hge
      exact absurd hlt (Nat.not_lt.mpr hge)
    · rw [Function.update_of_ne hd]
      exact h.fresh d
  · intro hfd
    cases Option.some.inj (hfd.symm.trans hc)
    rw [Function.update_self]
    change _ ++ (s.ring.sent (UInt64.ofNat n)).unsent = _
    rw [hunsent, hlive]
  · by_cases hd : d = c
    · subst hd
      rw [Function.update_self, ← hlive]
      exact List.prefix_append _ _
    · rw [Function.update_of_ne hd]
      exact h.past d
  · exact h.printed d
  · exact h.short d

lemma Intact.writeLoop (h : Intact taken g s) {c : ℕ} (hc : s.clientFd = some c) (results : List SendResult) :
    Intact taken g (writeLoop c results s).2 := by
  induction results generalizing s with
  | nil => exact h
  | cons result results ih =>
    cases result with
    | failed =>
      rw [Hostcmd.writeLoop]
      split_ifs
      · exact h
      · exact h
    | wouldBlock =>
      rw [Hostcmd.writeLoop]
      split_ifs
      · exact h
      · exact h
    | sent n =>
      rw [Hostcmd.writeLoop]
      simp only []
      split_ifs
      · exact h
      · exact h
      · exact ih (h.sent hc (Nat.min_le_right n _)) hc

lemma Intact.writeClient (h : Intact taken g s) {c : ℕ} (hc : s.clientFd = some c) (results : List SendResult) :
    Intact taken g (writeClient s c results) := by
  have hloop := h.writeLoop hc results
  rw [Hostcmd.writeClient]
  simp only []
  split_ifs
  · exact hloop.dropClient
  · exact hloop

lemma Intact.giveUp (h : Intact taken g s) (why : String) : Intact taken g (giveUp s why) := by
  have hfree : Intact taken g { s with cmdPending := false, cmdLine := [] } := h.congr rfl rfl rfl rfl
  rw [Hostcmd.giveUp]
  simp only []
  split_ifs
  · exact hfree.internalFinish _
  · exact (hfree.notice _).pushFrame nofun
  · exact hfree

lemma Intact.expirePendingCommand (h : Intact taken g s) (now later : Int) :
    Intact taken g (expirePendingCommand s now later) := by
  rw [Hostcmd.expirePendingCommand]
  split_ifs
  · exact h
  · exact h
  · exact h.giveUp _
  · exact h
  · exact h.giveUp _

lemma Intact.acceptClient (h : Intact taken g s) (tick : Tick) : Intact taken g (acceptClient s tick) := by
  rw [Hostcmd.acceptClient]
  simp only []
  split_ifs
  · exact h.congr rfl rfl rfl rfl
  · refine Intact.notice ?_ _
    refine Intact.note ?_ fun _ => rfl
    refine ⟨OutRing.good_clear s.ring, ?_, ?_, ?_, h.past, h.printed, h.short⟩
    · intro c hc
      cases Option.some.inj hc
      exact Nat.lt_succ_self s.connections
    · intro c hc
      exact h.fresh c (Nat.le_of_succ_le hc)
    · intro c hc
      cases Option.some.inj hc
      obtain ⟨hframes, hsent⟩ := h.fresh s.connections (Nat.le_refl _)
      change (g.after s.log).sent s.connections ++ [] = wire ((g.after s.log).frames s.connections)
      rw [hframes, hsent]
      rfl
  · exact h.congr rfl rfl rfl rfl

lemma Intact.serveIn (h : Intact taken g s) (c : ℕ) (tick : Tick) : Intact taken g (serveIn s c tick) := by
  rw [Hostcmd.serveIn]
  split_ifs
  · exact h.readClient c tick.lineNow tick.recv
  · exact h

lemma clientFd_pushFrame (s : State) (f : Frame) : (pushFrame s f).clientFd = s.clientFd := by
  rw [pushFrame]
  cases hc : s.clientFd with
  | none => exact hc
  | some c =>
    simp only []
    split_ifs
    · exact hc
    · exact hc

lemma clientFd_readByte (s : State) (c : ℕ) (now : Int) (b : UInt8) : (readByte s c now b).clientFd = s.clientFd := by
  rw [readByte, takeLine, notice, notice]
  simp only []
  split_ifs
  all_goals first | rfl | rw [clientFd_pushFrame]

lemma clientFd_readAll (c : ℕ) (now : Int) (bytes : List UInt8) (s : State) :
    (bytes.foldl (fun s b => readByte s c now b) s).clientFd = s.clientFd := by
  induction bytes generalizing s with
  | nil => rfl
  | cons b bytes ih =>
    rw [List.foldl_cons, ih]
    exact clientFd_readByte s c now b

lemma clientFd_dropClient (s : State) : (dropClient s).clientFd = none := by
  have hclosed : (closeClient s).clientFd = none := by
    rw [closeClient]
    cases s.clientFd <;> rfl
  rw [dropClient]
  split_ifs
  · exact hclosed
  · exact hclosed

lemma clientFd_serveIn {s : State} {c : ℕ} (hc : s.clientFd = some c) (tick : Tick) :
    (serveIn s c tick).clientFd = some c ∨ (serveIn s c tick).clientFd = none := by
  rw [serveIn]
  split_ifs
  · cases tick.recv with
    | received bytes =>
      cases bytes with
      | nil => exact .inr (clientFd_dropClient s)
      | cons b bytes => exact .inl ((clientFd_readAll c _ _ s).trans hc)
    | wouldBlock => exact .inl hc
    | failed => exact .inr (clientFd_dropClient s)
  · exact .inl hc

lemma Intact.serveClient (h : Intact taken g s) {c : ℕ} (hc : s.clientFd = some c) (tick : Tick) :
    Intact taken g (serveClient s c tick) := by
  have hread := h.serveIn c tick
  rw [Hostcmd.serveClient]
  simp only []
  split_ifs with _ _ hgone
  · exact h
  · exact h.dropClient
  · exact hread
  · refine hread.writeClient ?_ tick.sends
    rcases clientFd_serveIn hc tick with hkept | hlost
    · exact hkept
    · exact absurd (Option.isNone_iff_eq_none.mpr hlost) hgone
  · exact hread

lemma Intact.hostcmdPoll (h : Intact taken g s) (tick : Tick) : Intact taken g (hostcmdPoll s tick) := by
  have hexpired := h.expirePendingCommand tick.now tick.later
  rw [Hostcmd.hostcmdPoll]
  split_ifs
  · exact h
  · rw [serve]
    cases hc : (Hostcmd.expirePendingCommand s tick.now tick.later).clientFd with
    | none => exact hexpired.acceptClient tick
    | some c => exact hexpired.serveClient hc tick

lemma Intact.hostcmdReset (h : Intact taken g s) : Intact taken g (hostcmdReset s) := by
  have htold : Intact taken g
      (if s.clientFd.isSome && s.cmdInflight then
        Hostcmd.pushFrame (Hostcmd.notice s "machine reset\n") ⟨.done, bigEndian noAnswer⟩ else s) := by
    split_ifs
    · exact (h.notice _).pushFrame nofun
    · exact h
  rw [Hostcmd.hostcmdReset]
  generalize (if s.clientFd.isSome && s.cmdInflight then
    Hostcmd.pushFrame (Hostcmd.notice s "machine reset\n") ⟨.done, bigEndian noAnswer⟩ else s) = t at htold ⊢
  simp only []
  split_ifs
  · exact h
  · refine Intact.internalFinish ?_ 0
    exact htold.congr rfl rfl rfl rfl
  · exact htold.congr rfl rfl rfl rfl

lemma Intact.internalAbandon (h : Intact taken g s) : Intact taken g (internalAbandon s) := by
  have hgiven : Intact taken g ({ s with internalDone := none }.note .abandoned) := by
    refine Intact.note ?_ fun _ => rfl
    exact h.congr rfl rfl rfl rfl
  rw [Hostcmd.internalAbandon]
  simp only []
  split_ifs
  · exact h
  all_goals
    refine Intact.internalFinish ?_ 0
    exact hgiven.congr rfl rfl rfl rfl

lemma Intact.internalSubmit (h : Intact taken g s) (command : List UInt8) (now : Int) :
    Intact taken g (internalSubmit s command now).2 := by
  rw [Hostcmd.internalSubmit]
  simp only []
  split_ifs
  · exact h
  · exact h
  · exact h
  · refine Intact.note ?_ fun _ => rfl
    exact h.congr rfl rfl rfl rfl

lemma Intact.swiPoll (h : Intact taken g s) (bufptr bufsize : UInt32) (now : Int) :
    Intact taken g (swiPoll s bufptr bufsize now).2 := by
  rw [Hostcmd.swiPoll]
  simp only []
  split_ifs
  · exact h.congr rfl rfl rfl rfl
  · refine Intact.note ?_ fun _ => rfl
    exact h.congr rfl rfl rfl rfl
  · exact h.congr rfl rfl rfl rfl

lemma Intact.swiStatus (h : Intact taken g s) (marker rc : UInt32) : Intact taken g (swiStatus s marker rc).2 := by
  have hdone : Intact taken g (Hostcmd.pushFrame s ⟨.done, bigEndian rc⟩) := h.pushFrame nofun
  rw [Hostcmd.swiStatus]
  split_ifs
  · exact h.congr rfl rfl rfl rfl
  · refine Intact.internalFinish ?_ rc
    exact h.congr rfl rfl rfl rfl
  · exact hdone.congr rfl rfl rfl rfl
  · exact h

/-! ## Output of the guest -/

def forClient (s : State) : Option ℕ :=
  if s.internalActive || (!s.cmdInflight && 0 < s.orphaned) then none else s.clientFd

/-- What the guest is told that was accepted for connection `c`. -/
def told (s : State) : Event → ℕ → List UInt8
  | .output load alloc ptr len, c =>
    if forClient s = some c then
      (loadBytes load ptr len.toNat).take (swiOutput s load alloc ptr len).1.r0.toNat
    else []
  | _, _ => []

lemma swiOutput_eq (s : State) (load : UInt32 → UInt8) (alloc : ℕ → Bool) (ptr len : UInt32) {c : ℕ}
    (hc : forClient s = some c) :
    swiOutput s load alloc ptr len =
      if 0 < acceptable s len then
        (⟨UInt32.ofNat (acceptable s len), len⟩, putFrame s c ⟨.output, loadBytes load ptr (acceptable s len)⟩)
      else (⟨0, len⟩, s) := by
  rw [forClient] at hc
  split_ifs at hc with hno
  rw [Bool.or_eq_true, not_or] at hno
  rw [swiOutput, if_neg hno.1, hc]
  simp only []
  rw [if_neg hno.2]

lemma Intact.swiOutput_nobody (h : Intact taken g s) (load : UInt32 → UInt8) (alloc : ℕ → Bool) (ptr len : UInt32)
    (hc : forClient s = none) : Intact taken g (swiOutput s load alloc ptr len).2 := by
  rw [swiOutput]
  by_cases hactive : s.internalActive = true
  · rw [if_pos hactive]
    exact h.captureAll alloc _
  · rw [if_neg hactive]
    cases hfd : s.clientFd with
    | none => exact h
    | some c =>
      have hgone : (!s.cmdInflight && decide (0 < s.orphaned)) = true := by
        rw [forClient, hfd] at hc
        split_ifs at hc with hno
        exact ((Bool.or_eq_true _ _).mp hno).resolve_left hactive
      simp only [hgone, if_true]
      exact h

lemma internalCapture_same (s : State) (alloc : ℕ → Bool) (data : List UInt8) :
    (internalCapture s alloc data).ring = s.ring ∧ (internalCapture s alloc data).log = s.log := by
  rw [internalCapture]
  simp only []
  split_ifs
  all_goals exact ⟨rfl, rfl⟩

/-- **OUTPUT for nobody**, or for an internal command, is reported whole and puts nothing into the ring. -/
lemma swiOutput_nobody {s : State} (load : UInt32 → UInt8) (alloc : ℕ → Bool) (ptr len : UInt32)
    (hc : forClient s = none) :
    (swiOutput s load alloc ptr len).1.r0 = len ∧ (swiOutput s load alloc ptr len).2.ring = s.ring ∧
      (swiOutput s load alloc ptr len).2.log = s.log := by
  have hcaptured : ∀ (data : List UInt8) (t : State),
      (data.foldl (fun s byte => internalCapture s alloc [byte]) t).ring = t.ring ∧
        (data.foldl (fun s byte => internalCapture s alloc [byte]) t).log = t.log := by
    intro data
    induction data with
    | nil => exact fun _ => ⟨rfl, rfl⟩
    | cons b data ih =>
      intro t
      obtain ⟨hring, hlog⟩ := internalCapture_same t alloc [b]
      exact ⟨(ih _).1.trans hring, (ih _).2.trans hlog⟩
  rw [swiOutput]
  rw [forClient] at hc
  split_ifs at hc with hno
  · by_cases hactive : s.internalActive = true
    · rw [if_pos hactive]
      exact ⟨rfl, hcaptured _ s⟩
    · rw [if_neg hactive]
      have hgone := ((Bool.or_eq_true _ _).mp hno).resolve_left hactive
      cases s.clientFd with
      | none => exact ⟨rfl, rfl, rfl⟩
      | some c =>
        simp only [hgone, if_true]
        exact ⟨trivial, trivial, trivial⟩
  · rw [Bool.or_eq_true, not_or] at hno
    rw [if_neg hno.1, hc]
    exact ⟨rfl, rfl, rfl⟩

lemma length_loadBytes (load : UInt32 → UInt8) (ptr : UInt32) (len : ℕ) : (loadBytes load ptr len).length = len := by
  simp [loadBytes]

lemma take_loadBytes (load : UInt32 → UInt8) (ptr : UInt32) {n len : ℕ} (hn : n ≤ len) :
    (loadBytes load ptr len).take n = loadBytes load ptr n := by
  rw [loadBytes, ← List.map_take, List.take_range, Nat.min_eq_left hn, loadBytes]

lemma acceptable_le (s : State) (len : UInt32) :
    acceptable s len ≤ len.toNat ∧ (0 < acceptable s len → acceptable s len + 5 ≤ s.ring.free.toNat) := by
  rw [acceptable]
  split_ifs
  · omega
  · omega

lemma toNat_acceptable (s : State) (len : UInt32) : (UInt32.ofNat (acceptable s len)).toNat = acceptable s len :=
  UInt32.toNat_ofNat_of_lt' (Nat.lt_of_le_of_lt (acceptable_le s len).1 len.toNat_lt_size)

/-- **OUTPUT for a client** puts in, as one frame, what it says that it accepts. -/
lemma Intact.swiOutput (h : Intact taken g s) (load : UInt32 → UInt8) (alloc : ℕ → Bool) (ptr len : UInt32) :
    Intact (fun c => taken c ++ told s (.output load alloc ptr len) c) g (swiOutput s load alloc ptr len).2 := by
  cases hc : forClient s with
  | none =>
    have hno : (fun c => taken c ++ told s (.output load alloc ptr len) c) = taken := by
      funext c
      rw [told, hc, if_neg nofun, List.append_nil]
    rw [hno]
    exact h.swiOutput_nobody load alloc ptr len hc
  | some c =>
    obtain ⟨hle, hroom⟩ := acceptable_le s len
    have hfd : s.clientFd = some c := by
      rw [forClient] at hc
      split_ifs at hc
      exact hc
    have htold : ∀ d, told s (.output load alloc ptr len) d =
        if c = d then loadBytes load ptr (acceptable s len) else [] := by
      intro d
      rw [told, hc, swiOutput_eq s load alloc ptr len hc]
      by_cases hd : c = d
      · rw [if_pos (congrArg some hd), if_pos hd]
        split_ifs with hpos
        · rw [toNat_acceptable, take_loadBytes load ptr hle]
        · rw [Nat.eq_zero_of_not_pos hpos]
          rfl
      · rw [if_neg fun heq => hd (Option.some.inj heq), if_neg hd]
    simp only [htold]
    rw [swiOutput_eq s load alloc ptr len hc]
    split_ifs with hpos
    · have hput := h.putFrame hfd ⟨.output, loadBytes load ptr (acceptable s len)⟩
        (by rw [length_loadBytes]; exact hroom hpos)
      rw [printed_output] at hput
      convert hput using 1
      funext d
      by_cases hd : c = d
      · subst hd
        rw [if_pos rfl, Function.update_self]
      · rw [if_neg hd, Function.update_of_ne (Ne.symm hd), List.append_nil]
    · have hzero := Nat.eq_zero_of_not_pos hpos
      have hnone : ∀ d, (if c = d then loadBytes load ptr (acceptable s len) else []) = [] := by
        intro d
        rw [hzero]
        split_ifs <;> rfl
      simp only [hnone, List.append_nil]
      exact h

lemma Intact.act (h : Intact taken g s) (e : Event) : Intact (fun c => taken c ++ told s e c) g (act s e) := by
  have hsame : (∀ c, told s e c = []) → Intact taken g (Hostcmd.act s e) →
      Intact (fun c => taken c ++ told s e c) g (Hostcmd.act s e) := by
    intro hno hkept
    simpa only [hno, List.append_nil] using hkept
  cases e with
  | register now => exact hsame (fun _ => rfl) (h.congr rfl rfl rfl rfl)
  | poll bufptr bufsize now => exact hsame (fun _ => rfl) (h.swiPoll bufptr bufsize now)
  | output load alloc ptr len => exact h.swiOutput load alloc ptr len
  | status marker rc => exact hsame (fun _ => rfl) (h.swiStatus marker rc)
  | submit command now => exact hsame (fun _ => rfl) (h.internalSubmit command now)
  | abandon => exact hsame (fun _ => rfl) h.internalAbandon
  | reset => exact hsame (fun _ => rfl) h.hostcmdReset
  | tick tick => exact hsame (fun _ => rfl) (h.hostcmdPoll tick)

/-! ## Runs -/

structure Watched where
  hc : State
  wires : Wires
  told : ℕ → List UInt8

def watch (w : Watched) (e : Event) : Watched where
  hc := step w.hc e
  wires := w.wires.after (step w.hc e).log
  told := fun c => w.told c ++ Hostcmd.told w.hc e c

def Watched.start (listening : Bool) : Watched := ⟨init listening, .none, fun _ => []⟩

/-- What was sent and what is still in the ring are, together, the frames put into it. -/
def Watched.Intact (w : Watched) : Prop := Hostcmd.Intact w.told w.wires { w.hc with log := [] }

lemma intact_start (listening : Bool) : (Watched.start listening).Intact where
  good := OutRing.good_clear ⟨fun _ => 0, 0, 0⟩
  current := nofun
  fresh := fun _ _ => ⟨rfl, rfl⟩
  live := nofun
  past := fun _ => List.nil_prefix
  printed := fun _ => rfl
  short := nofun

lemma told_log (s : State) (e : Event) (c : ℕ) : told { s with log := [] } e c = told s e c := by
  cases e with
  | output load alloc ptr len =>
    by_cases hc : forClient s = some c
    · have hc' : forClient { s with log := [] } = some c := hc
      have hacc : acceptable { s with log := [] } len = acceptable s len := rfl
      rw [told, told, if_pos hc, if_pos hc', swiOutput_eq _ load alloc ptr len hc,
        swiOutput_eq _ load alloc ptr len hc', hacc]
      split_ifs <;> rfl
    · have hc' : forClient { s with log := [] } ≠ some c := hc
      rw [told, told, if_neg hc, if_neg hc']
  | _ => rfl

lemma intact_watch {w : Watched} (h : w.Intact) (e : Event) : (watch w e).Intact := by
  have hact := Hostcmd.Intact.act h e
  simp only [told_log] at hact
  exact ⟨hact.good, hact.current, hact.fresh, hact.live, hact.past, hact.printed, hact.short⟩

/-- An OUTPUT for a client reports the bytes of the frame that it puts in; any other is reported whole, and puts in
nothing. -/
def ReportsWhatItQueued (w : Watched) : Event → Prop
  | .output load alloc ptr len =>
    (∀ c, forClient w.hc = some c →
      printed ((Wires.none.after (step w.hc (.output load alloc ptr len)).log).frames c) =
        (loadBytes load ptr len.toNat).take (swiOutput w.hc load alloc ptr len).1.r0.toNat ∧
      (swiOutput w.hc load alloc ptr len).1.r0.toNat ≤ len.toNat) ∧
    (forClient w.hc = none →
      (swiOutput w.hc load alloc ptr len).1.r0 = len ∧
      (step w.hc (.output load alloc ptr len)).ring = w.hc.ring ∧
      (step w.hc (.output load alloc ptr len)).log = [])
  | _ => True

lemma reportsWhatItQueued (w : Watched) (e : Event) : ReportsWhatItQueued w e := by
  cases e with
  | output load alloc ptr len =>
    have hstep : step w.hc (.output load alloc ptr len) = (swiOutput { w.hc with log := [] } load alloc ptr len).2 := rfl
    refine ⟨fun c hc => ?_, fun hc => ?_⟩
    · obtain ⟨hle, -⟩ := acceptable_le w.hc len
      have hc' : forClient { w.hc with log := [] } = some c := hc
      have hacc : acceptable { w.hc with log := [] } len = acceptable w.hc len := rfl
      rw [hstep, swiOutput_eq _ load alloc ptr len hc, swiOutput_eq _ load alloc ptr len hc', hacc]
      split_ifs with hpos
      · rw [toNat_acceptable, take_loadBytes load ptr hle]
        refine ⟨?_, hle⟩
        change printed (Function.update (fun _ => []) c ([] ++ [_]) c) = _
        rw [Function.update_self, List.nil_append, printed_output]
      · exact ⟨rfl, Nat.zero_le _⟩
    · have hc' : forClient { w.hc with log := [] } = none := hc
      rw [hstep]
      exact ⟨(swiOutput_nobody load alloc ptr len hc).1, (swiOutput_nobody load alloc ptr len hc').2⟩
  | _ => trivial

/-- **Whole frames, in order.**  In every run: the bytes sent on a connection are the first ones of frames put
together, none of which is cut or lost; its 'O' frames carry, in order, what OUTPUT said that it accepted for it; what
was not sent is in the ring as it was put there; and an OUTPUT for a client says no more than it did, and one for
nobody that it took all of what it drops. -/
theorem stream_of_whole_frames (listening : Bool) (es : List Event) :
    let w := exec watch (Watched.start listening) es
    (∀ c, w.wires.sent c <+: wire (w.wires.frames c)) ∧
    (∀ c, ∀ f ∈ w.wires.frames c, f.payload.length < 2 ^ 32) ∧
    (∀ c, printed (w.wires.frames c) = w.told c) ∧
    (∀ c, w.hc.clientFd = some c → w.wires.sent c ++ w.hc.ring.unsent = wire (w.wires.frames c)) ∧
    Along watch ReportsWhatItQueued (Watched.start listening) es := by
  intro w
  have hw : w.Intact :=
    exec_inv (I := Watched.Intact) (C := fun _ _ => True) (fun _ e h _ => intact_watch h e) es _ (intact_start listening)
      (along_of_forall fun _ _ _ => trivial)
  exact ⟨hw.past, hw.short, hw.printed, hw.live, along_of_forall fun e _ w => reportsWhatItQueued w e⟩

def knock : Tick :=
  { now := 0, later := 0, lineNow := 0, arrives := true, name := "", broken := false, readable := false,
    writable := false, recv := .wouldBlock, sends := [] }

def givenUp : List Event :=
  List.replicate 64 (.tick knock) ++ [.register 0, .submit [0x2a] 0, .poll 0x8000 256 0, .abandon]

/-- **A discarded byte is reported as accepted.**  A client is connected, the output is of a command that was given
up: the guest is told that its byte was accepted, and no frame is put into the ring. -/
theorem output_takes_what_it_drops :
    let w := exec watch (Watched.start true) givenUp
    w.hc.clientFd = some 0 ∧
    (swiOutput w.hc (fun _ => 0x21) (fun _ => true) 0x8000 1).1.r0 = 1 ∧
    (Wires.none.after (step w.hc (.output (fun _ => 0x21) (fun _ => true) 0x8000 1)).log).frames 0 = [] := by
  decide +kernel

end RpcEmu.Hostcmd
