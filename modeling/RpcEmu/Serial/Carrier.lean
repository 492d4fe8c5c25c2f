import RpcEmu.Serial.Modem

/-!
# The carrier of the modem

Three things are to agree: the state of the modem, its socket, and the carrier line that the UART was last told
of.  What a step does to the three is one of seven turns (`Turn`), and which of them it is depends on what was
asked for and on what the host says (`face_step`).  The rest is said of the turns.

* The modem is offline just when it has no socket, always.
* It is online only with a connection that has been made, unless ATO was typed while one was on its way.
* The line agrees unless a connection was on its way, or one was given up without a word to the UART: by another
  call, by a reset or by a new backend.
-/

namespace RpcEmu.Serial

open Runs

/-! ## What has been seen -/

inductive Link where
  | none | connecting | up
  deriving DecidableEq, Repr

def Link.isUp : Link → Bool
  | up => true
  | none | connecting => false

structure View where
  link : Link
  dcd : Bool
  /-- data mode has begun and nothing has been made of it yet -/
  fresh : Bool
  /-- CONNECT was reported only where data mode began, over a connection that was made -/
  sound : Bool
  deriving DecidableEq, Repr

def View.note (v : View) : ModemEvent → View
  | .opened => { v with link := .connecting }
  | .completed => { v with link := .up }
  | .closed => { v with link := .none }
  | .entered _ => { v with fresh := true }
  | .typed _ _ | .escaped _ => { v with fresh := false }
  | .result .connect => { v with fresh := false, sound := v.sound && v.link.isUp && v.fresh }
  | .msr status => { v with dcd := status &&& serialStatDcd ≠ 0 }
  | .uartReset => { v with dcd := false }
  | .sent _ | .received _ | .own _ | .result _ | .uart _ | .cleared | .backend _ => v

def view (p : SerialPort) : View := p.log.foldl View.note ⟨.none, false, false, true⟩

@[simp] lemma view_emit (p : SerialPort) (e : ModemEvent) : view (p.emit e) = (view p).note e := by
  simp [view, SerialPort.emit]

@[simp] lemma modem_emit (p : SerialPort) (e : ModemEvent) : (p.emit e).modem = p.modem := rfl

@[simp] lemma attached_emit (p : SerialPort) (e : ModemEvent) : (p.emit e).attached = p.attached := rfl

@[simp] lemma view_mk (p : SerialPort) (m : ModemState) (b : Bool) : view ⟨m, b, p.log⟩ = view p := rfl

structure Face where
  state : ModemConnState
  held : Bool
  link : Link
  dcd : Bool
  sound : Bool
  deriving DecidableEq, Repr

def ModemState.held (m : ModemState) : Bool := 0 ≤ m.fd

@[simp] lemma held_eq_true {m : ModemState} : m.held = true ↔ 0 ≤ m.fd := decide_eq_true_iff

@[simp] lemma held_eq_false {m : ModemState} : m.held = false ↔ m.fd < 0 := by simp [ModemState.held]

def face (p : SerialPort) : Face :=
  ⟨p.modem.state, p.modem.held, (view p).link, (view p).dcd, (view p).sound⟩

inductive Turn where
  /-- nothing of the three -/
  | stays
  /-- command mode, with the connection -/
  | escapes
  /-- the end, and the UART is told -/
  | hangsUp
  /-- the end, and it is not -/
  | drops
  /-- a connection is on its way -/
  | dials
  /-- one has been made -/
  | connects
  /-- data mode again -/
  | returns
  deriving DecidableEq, Repr

def Turn.face (f : Face) (quiet : Bool) : Turn → Face
  | stays => f
  | escapes => { f with state := .commandOnline }
  | hangsUp => { f with state := .offline, held := false, link := .none, dcd := false }
  | drops => { f with state := .offline, held := false, link := .none }
  | dials => { f with state := .connecting, held := true, link := .connecting }
  | connects => { f with state := .online, held := true, link := .up, dcd := true }
  | returns => { f with state := .online, sound := f.sound && (quiet || f.link.isUp) }

/-- Offline there is no connection, and only then. -/
structure Face.Kept (f : Face) : Prop where
  offline : f.state = .offline ↔ f.held = false
  link : f.link = .none ↔ f.held = false
  connecting : f.state = .connecting → f.link = .connecting

/-! ## Which turn a step is -/

def asked (p : SerialPort) (data : UInt8) : Option Command :=
  if p.modem.state ≠ .online ∧ (data = 0x0D ∨ data = 0x0A) ∧ p.modem.line ≠ [] then some (parseCommand p.modem.line)
  else none

def firstAttempt (attempt : List Sockaddr → Attempt) : List Sockaddr → Option (Attempt × List Sockaddr)
  | [] => none
  | ai :: rest =>
    let a := attempt (ai :: rest)
    if a.fd < 0 ∨ a.outcome = .failed then firstAttempt attempt rest else some (a, rest)

def dialled (number : List UInt8) (host : WriteHost) : Option (Attempt × List Sockaddr) :=
  firstAttempt host.attempt (host.resolve (dialTarget number).1 (dialTarget number).2)

def Turn.ofAttempt : Option (Attempt × List Sockaddr) → Turn
  | none => drops
  | some (a, _) => if a.outcome = .made then connects else dials

def Turn.ofCommand (p : SerialPort) (host : WriteHost) : Command → Turn
  | .dial number => if (dialTarget number).1 = [] then stays else ofAttempt (dialled number host)
  | .hangUp => if 0 ≤ p.modem.fd then hangsUp else stays
  | .returnOnline => if 0 ≤ p.modem.fd then returns else stays
  | _ => stays

def Turn.ofConnect (p : SerialPort) (r : Readiness) (attempt : List Sockaddr → Attempt) : Turn :=
  if p.modem.state = .connecting ∧ 0 ≤ p.modem.fd then
    match r with
    | .ready err _ => if err = 0 then connects else ofAttempt (firstAttempt attempt p.modem.aiNext)
    | .waiting now =>
      if p.modem.connectDeadlineMs < now then ofAttempt (firstAttempt attempt p.modem.aiNext) else stays
  else stays

def turn (p : SerialPort) : PortStep → Turn
  | .write data host => if p.attached then ((asked p data).map (Turn.ofCommand p host)).getD .stays else .stays
  | .ctrl mcr =>
    if p.attached ∧ mcr &&& serialCtrlDtr = 0 ∧ p.modem.prevDtr ∧ 0 ≤ p.modem.fd then .hangsUp else .stays
  | .busReset => if p.attached then .drops else .stays
  | .connect r attempt => .ofConnect p r attempt
  | .recv (.bytes bs) => if Reads p.modem ∧ bs = [] then .hangsUp else .stays
  | .recv .failed => if Reads p.modem then .hangsUp else .stays
  | .recv _ => .stays
  | .send (.took n) => if 0 ≤ p.modem.fd ∧ 0 < p.modem.tx.count ∧ n = 0 then .hangsUp else .stays
  | .send .failed => if 0 ≤ p.modem.fd ∧ 0 < p.modem.tx.count then .hangsUp else .stays
  | .send _ => .stays
  | .escape now =>
    if p.modem.state = .online ∧ p.modem.plusCount = 3 ∧ modemGuardMs ≤ now - p.modem.lastPlusMs then .escapes
    else .stays
  | .deliver => .stays
  | .apply _ => .drops
  | .machineReset _ => .hangsUp

/-! ## The pieces of a step -/

section Pieces

variable (p : SerialPort)

@[simp] lemma face_own (s : List UInt8) : face (modemToGuestStr p s) = face p := by
  have hstate : (s.foldl modemRxPut p.modem).state = p.modem.state := rxPuts_eq ModemState.state fun _ => rfl
  have hheld : (s.foldl modemRxPut p.modem).held = p.modem.held := rxPuts_eq ModemState.held fun _ => rfl
  simp [face, modemToGuestStr, View.note, hstate, hheld]

lemma face_result {code : ResultCode} (h : code ≠ .connect) : face (modemResult p code) = face p := by
  have hemit (q : SerialPort) : face (q.emit (.result code)) = face q := by
    cases code <;> simp_all [face, View.note]
  unfold modemResult
  split_ifs
  · rfl
  · rw [hemit, face_own]
  · rw [hemit, face_own]

lemma face_connect (h : (view p).fresh = true) :
    face (modemResult p .connect) =
      { face p with sound := (face p).sound && (p.modem.quiet || (face p).link.isUp) } := by
  have hfresh (s : List UInt8) : (view (modemToGuestStr p s)).fresh = (view p).fresh := by
    simp [modemToGuestStr, View.note]
  have hemit (q : SerialPort) (hq : (view q).fresh = true) :
      face (q.emit (.result .connect)) = { face q with sound := (face q).sound && (face q).link.isUp } := by
    simp [face, View.note, hq]
  unfold modemResult
  split_ifs with hquiet
  · simp [hquiet]
  · rw [hemit _ ((hfresh _).trans h), face_own]
    simp [hquiet]
  · rw [hemit _ ((hfresh _).trans h), face_own]
    simp [hquiet]

lemma statusBits_dcd (m : ModemState) : decide (modemStatusBits m &&& serialStatDcd ≠ 0) = m.held := by
  unfold modemStatusBits
  split_ifs with h
  · exact (held_eq_true.mpr h).symm
  · exact (held_eq_false.mpr (not_le.mp h)).symm

lemma face_updateMsr : face (updateMsr p) = { face p with dcd := (face p).held } := by
  simp only [updateMsr, face, view_emit, View.note, statusBits_dcd, modem_emit]

lemma fresh_updateMsr : (view (updateMsr p)).fresh = (view p).fresh := by simp [updateMsr, View.note]

variable {p}

lemma face_close (h : (face p).Kept) : face (modemClose p) = Turn.drops.face (face p) p.modem.quiet := by
  unfold modemClose
  by_cases hfd : 0 ≤ p.modem.fd
  · simp [face, hfd, closesocket, View.note, Turn.face, ModemState.held]
  · have hneg : p.modem.fd < 0 := not_le.mp hfd
    have hlink : (view p).link = .none := h.link.mpr (held_eq_false.mpr hneg)
    simp [face, hfd, hlink, Turn.face, ModemState.held]

lemma face_carrierLost (h : (face p).Kept) :
    face (modemCarrierLost p) = Turn.hangsUp.face (face p) p.modem.quiet := by
  rw [modemCarrierLost, face_result _ (by decide), face_updateMsr, face_close h]
  rfl

lemma face_resetState (h : (face p).Kept) : face (modemResetState p) = Turn.drops.face (face p) p.modem.quiet := by
  rw [← face_close h, modemResetState]
  simp only [face, view_emit, View.note, modem_emit]
  rfl

lemma kept_close (h : (face p).Kept) : (face (modemClose p)).Kept := by
  rw [face_close h]
  exact ⟨iff_of_true rfl rfl, iff_of_true rfl rfl, fun hc => by cases hc⟩

lemma face_apply (h : (face p).Kept) (mode : PeripheralSerialMode) :
    face (serialApplyPort p mode) = Turn.drops.face (face p) p.modem.quiet := by
  have hclose := face_close h
  have hbackend : face (({ modemClose p with attached := false } : SerialPort).emit (.backend mode)) =
      face (modemClose p) := by
    simp only [face, view_emit, modem_emit, View.note]
    rfl
  cases mode with
  | tcpModem =>
    have hreset := face_resetState (p := ({ modemClose p with attached := false } : SerialPort).emit
      (.backend .tcpModem)) (hbackend ▸ kept_close h)
    rw [hbackend, hclose] at hreset
    exact hreset
  | disabled | logToFile | physicalDevice => exact hbackend.trans hclose

lemma face_onConnected (now : Int) (hfd : 0 ≤ p.modem.fd) (hlink : (view p).link = .up) :
    face (modemOnConnected p now) = Turn.connects.face (face p) p.modem.quiet := by
  have hheld : p.modem.held = true := held_eq_true.mpr hfd
  rw [modemOnConnected, face_connect _ (by rw [fresh_updateMsr, view_emit]; rfl), face_updateMsr]
  simp only [face, view_emit, modem_emit, view_mk, View.note, hlink, Turn.face]
  simp [ModemState.held, hfd, Link.isUp]

lemma face_tryNextAddress (attempt : List Sockaddr → Attempt) (ais : List Sockaddr) (hfd : p.modem.fd < 0)
    (hlink : (view p).link = .none) :
    face (modemTryNextAddress attempt p ais) =
      (Turn.ofAttempt (firstAttempt attempt ais)).face (face p) p.modem.quiet := by
  induction ais with
  | nil =>
    rw [modemTryNextAddress, face_result _ (by decide)]
    simp [face, firstAttempt, Turn.ofAttempt, Turn.face, hfd, hlink]
  | cons ai rest ih =>
    simp only [modemTryNextAddress, firstAttempt]
    by_cases hneg : (attempt (ai :: rest)).fd < 0
    · simpa only [hneg, true_or, if_true] using ih
    rw [if_neg hneg]
    cases hout : (attempt (ai :: rest)).outcome with
    | made =>
      have hup := face_onConnected (p :=
        (({ p with modem := { p.modem with fd := (attempt (ai :: rest)).fd, aiNext := rest } }.emit .opened).emit
          .completed)) (attempt (ai :: rest)).now (not_lt.mp hneg) (by simp [View.note])
      dsimp only
      rw [hup]
      simp [hneg, hout, Turn.ofAttempt, Turn.face, face, View.note]
    | pending =>
      simp [hneg, hout, Turn.ofAttempt, Turn.face, face, View.note, not_lt.mp hneg]
    | failed =>
      simpa only [hneg, hout, or_true, if_true] using ih

lemma face_congr {m m' : ModemState} {b b' : Bool} {log : List ModemEvent} (hstate : m'.state = m.state)
    (hfd : m'.fd = m.fd) : face ⟨m', b', log⟩ = face ⟨m, b, log⟩ := by
  simp only [face, view, ModemState.held, hstate, hfd]

lemma modemToggles_frame (m : ModemState) (s : List UInt8) :
    (modemToggles m s).state = m.state ∧ (modemToggles m s).fd = m.fd := by
  induction s generalizing m with
  | nil => exact ⟨rfl, rfl⟩
  | cons b s ih =>
    simp only [modemToggles]
    split_ifs <;> exact ih _

lemma quiet_close : (modemClose p).modem.quiet = p.modem.quiet := by
  unfold modemClose
  split_ifs <;> rfl

lemma fd_close : (modemClose p).modem.fd < 0 := by
  unfold modemClose
  split_ifs with h
  · exact Int.negSucc_lt_zero 0
  · exact not_le.mp h

lemma ofAttempt_drops (r : Option (Attempt × List Sockaddr)) (f : Face) (quiet : Bool) :
    (Turn.ofAttempt r).face (Turn.drops.face f quiet) quiet = (Turn.ofAttempt r).face f quiet := by
  cases r with
  | none => rfl
  | some r =>
    by_cases h : r.1.outcome = .made <;> simp [Turn.ofAttempt, h, Turn.face]

lemma face_dial (h : (face p).Kept) (number : List UInt8) (host : WriteHost) :
    face (modemDial p number host) = (Turn.ofCommand p host (.dial number)).face (face p) p.modem.quiet := by
  have hclose := face_close h
  have hlink : (view (modemClose p)).link = .none := congrArg Face.link hclose
  simp only [modemDial, Turn.ofCommand]
  split_ifs with htarget
  · exact face_result p (by decide)
  cases hres : host.resolve (dialTarget number).1 (dialTarget number).2 with
  | nil =>
    rw [dialled, hres]
    dsimp only
    rw [face_result _ (by decide), hclose]
    rfl
  | cons ai rest =>
    have htry := face_tryNextAddress
      (p := { modemClose p with modem := { (modemClose p).modem with aiNext := ai :: rest, telnet := true } })
      host.attempt (ai :: rest) fd_close hlink
    refine htry.trans ?_
    change (Turn.ofAttempt _).face (face (modemClose p)) (modemClose p).modem.quiet = _
    rw [hclose, quiet_close, ofAttempt_drops, dialled, hres]

lemma face_processCommand (h : (face p).Kept) (host : WriteHost) :
    face (modemProcessCommand p host) =
      (Turn.ofCommand p host (parseCommand p.modem.line)).face (face p) p.modem.quiet := by
  unfold modemProcessCommand
  cases parseCommand p.modem.line with
  | blank => rfl
  | invalid => exact face_result p (by decide)
  | bare => exact face_result p (by decide)
  | dial number => exact face_dial h number host
  | hangUp =>
    simp only [Turn.ofCommand]
    split_ifs
    · exact face_carrierLost h
    · exact face_result p (by decide)
  | returnOnline =>
    simp only [Turn.ofCommand]
    split_ifs
    · rw [face_connect _ (by simp [View.note])]
      simp only [face, view_emit, modem_emit, View.note, view_mk, Turn.face]
      rfl
    · exact face_result p (by decide)
  | configure s =>
    obtain ⟨hstate, hfd⟩ := modemToggles_frame p.modem s
    have htoggles : face { p with modem := modemToggles p.modem s } = face p := face_congr hstate hfd
    dsimp only
    rw [face_result _ (by decide)]
    split_ifs
    · rw [face_own, htoggles]
      rfl
    · rw [htoggles]
      rfl

lemma modemToSockets_frame (bs : List UInt8) (m : ModemState) :
    bs.foldl modemToSocket m = { m with tx := (bs.foldl modemToSocket m).tx } := by
  induction bs generalizing m with
  | nil => rfl
  | cons b bs ih =>
    have hone : modemToSocket m b = { m with tx := (modemToSocket m b).tx } := by
      unfold modemToSocket
      dsimp only
      split_ifs <;> rfl
    rw [List.foldl_cons, ih, hone]

lemma flushPlus_frame (m : ModemState) : (flushPlus m).state = m.state ∧ (flushPlus m).fd = m.fd := by
  unfold flushPlus
  rw [modemToSockets_frame]
  exact ⟨rfl, rfl⟩

lemma dataTxByte_frame (m : ModemState) (b : UInt8) (now : Int) :
    (modemDataTxByte m b now).state = m.state ∧ (modemDataTxByte m b now).fd = m.fd := by
  unfold modemDataTxByte
  split_ifs
  · exact ⟨rfl, rfl⟩
  · have hone := modemToSockets_frame [b] (flushPlus m)
    rw [List.foldl_cons, List.foldl_nil] at hone
    rw [hone]
    exact flushPlus_frame m

lemma face_write (h : (face p).Kept) (data : UInt8) (host : WriteHost) :
    face (modemOnWrite p data host) =
      (((asked p data).map (Turn.ofCommand p host)).getD .stays).face (face p) p.modem.quiet := by
  unfold modemOnWrite
  by_cases honline : p.modem.state = .online
  · obtain ⟨hstate, hfd⟩ := dataTxByte_frame p.modem data host.now
    have hasked : asked p data = none := if_neg fun hc => hc.1 honline
    rw [if_pos honline, hasked]
    simp only [face, view_emit, modem_emit, view_mk, View.note, ModemState.held, hstate, hfd]
    rfl
  rw [if_neg honline]
  -- what is echoed is not among the three
  generalize hecho : (if p.modem.echo then modemToGuestStr p (if data = 0x0D then crlf else [data]) else p) = q
  obtain ⟨hq, hline, hfd, hquiet⟩ : face q = face p ∧ q.modem.line = p.modem.line ∧ q.modem.fd = p.modem.fd ∧
      q.modem.quiet = p.modem.quiet := by
    rw [← hecho]
    split_ifs
    · exact ⟨face_own p _, rxPuts_eq ModemState.line fun _ => rfl, rxPuts_eq ModemState.fd fun _ => rfl,
        rxPuts_eq ModemState.quiet fun _ => rfl⟩
    · exact ⟨face_own p _, rxPuts_eq ModemState.line fun _ => rfl, rxPuts_eq ModemState.fd fun _ => rfl,
        rxPuts_eq ModemState.quiet fun _ => rfl⟩
    · exact ⟨rfl, rfl, rfl, rfl⟩
  have hcommand : Turn.ofCommand q host = Turn.ofCommand p host := by
    funext c
    cases c <;> simp only [Turn.ofCommand, hfd]
  by_cases hend : data = 0x0D ∨ data = 0x0A
  · by_cases hempty : p.modem.line = []
    · have hasked : asked p data = none := if_neg fun hc => hc.2.2 hempty
      simp only [if_pos hend, hline, if_pos hempty, hasked, hq]
      rfl
    · have hasked : asked p data = some (parseCommand p.modem.line) := if_pos ⟨honline, hend, hempty⟩
      have hrun := face_processCommand (p := q) (hq ▸ h) host
      rw [hcommand, hq, hline, hquiet] at hrun
      simp only [if_pos hend, hline, if_neg hempty, hasked]
      exact hrun
  · have hasked : asked p data = none := if_neg fun hc => hend hc.2.1
    simp only [if_neg hend, hasked]
    split_ifs <;> exact hq

lemma face_connectStep (r : Readiness) (attempt : List Sockaddr → Attempt) :
    face (pollConnect p r attempt) = (Turn.ofConnect p r attempt).face (face p) p.modem.quiet := by
  unfold pollConnect Turn.ofConnect
  split_ifs with hc
  swap
  · rfl
  have hclosed : face (closesocket p) = { face p with held := false, link := .none } := by
    simp [closesocket, face, View.note, ModemState.held]
  have hnext : face (modemTryNextAddress attempt (closesocket p) (closesocket p).modem.aiNext) =
      (Turn.ofAttempt (firstAttempt attempt p.modem.aiNext)).face (face p) p.modem.quiet := by
    rw [face_tryNextAddress attempt _ (Int.negSucc_lt_zero 0) (congrArg Face.link hclosed), hclosed]
    change (Turn.ofAttempt (firstAttempt attempt p.modem.aiNext)).face _ _ = _
    cases firstAttempt attempt p.modem.aiNext with
    | none => rfl
    | some r => by_cases hr : r.1.outcome = .made <;> simp [Turn.ofAttempt, hr, Turn.face]
  cases r with
  | ready err now =>
    dsimp only
    split_ifs
    · have hup := face_onConnected (p := p.emit .completed) now hc.2 (by simp [View.note])
      rw [hup]
      simp only [face, view_emit, modem_emit, View.note, Turn.face]
    · exact hnext
  | waiting now =>
    dsimp only
    split_ifs
    · exact hnext
    · rfl

lemma face_quietly {m : ModemState} {e : ModemEvent} (hstate : m.state = p.modem.state) (hfd : m.fd = p.modem.fd)
    (hnote : (view p).note e = view p) : face (SerialPort.emit { p with modem := m } e) = face p := by
  simp only [face, view_emit, modem_emit, view_mk, hnote, ModemState.held, hstate, hfd]

/-- **What a step does to the three** is its turn. -/
theorem face_step (h : (face p).Kept) (a : PortStep) :
    face (portStep p a) = (turn p a).face (face p) p.modem.quiet := by
  cases a with
  | write data host =>
    simp only [portStep, turn]
    split_ifs
    · exact face_write h data host
    · rfl
  | ctrl mcr =>
    simp only [portStep, turn, modemOnCtrl]
    by_cases hatt : p.attached = true
    swap
    · simp [hatt, Turn.face]
    by_cases hdrop : mcr &&& serialCtrlDtr = 0 ∧ p.modem.prevDtr = true ∧ 0 ≤ p.modem.fd
    · simp only [hatt, hdrop, if_true, and_self]
      exact face_carrierLost h
    · simp only [hatt, if_true, true_and, hdrop, if_false]
      have hno : ¬(¬decide (mcr &&& serialCtrlDtr ≠ 0) = true ∧ p.modem.prevDtr = true ∧ 0 ≤ p.modem.fd) := by
        simpa using hdrop
      rw [if_neg hno]
      rfl
  | busReset =>
    simp only [portStep, turn]
    split_ifs
    · exact face_resetState h
    · rfl
  | connect r attempt => exact face_connectStep r attempt
  | recv r =>
    have hinput (bs : List UInt8) : face (modemTelnetInput p bs) = face p := by
      have hframe := (modemTelnetBytes_frame p.modem bs).eq
      exact face_quietly (by rw [hframe]) (by rw [hframe]) rfl
    cases r with
    | bytes bs =>
      by_cases hr : Reads p.modem <;> by_cases hbs : bs = [] <;>
        simp only [portStep, turn, recvOne, hr, hbs, if_true, if_false, true_and, false_and, and_self]
      · exact face_carrierLost h
      · exact hinput bs
      · rfl
      · rfl
    | interrupted | wouldBlock =>
      simp only [portStep, turn, recvOne, ite_self]
      rfl
    | failed =>
      simp only [portStep, turn, recvOne]
      split_ifs
      · exact face_carrierLost h
      · rfl
  | send r =>
    have htook (n : Nat) : face (sendTook p n) = face p := face_quietly rfl rfl rfl
    cases r with
    | took n =>
      simp only [portStep, turn, sendOne]
      by_cases hs : 0 ≤ p.modem.fd ∧ 0 < p.modem.tx.count
      · by_cases hn : n = 0
        · simp only [hs, hn, and_self, if_true]
          exact face_carrierLost h
        · simp only [hs, hn, and_self, and_false, if_true, if_false]
          exact htook n
      · have hno : ¬(0 ≤ p.modem.fd ∧ 0 < p.modem.tx.count ∧ n = 0) := fun hc => hs ⟨hc.1, hc.2.1⟩
        rw [if_neg hs, if_neg hno]
        rfl
    | interrupted | wouldBlock =>
      simp only [portStep, turn, sendOne, ite_self]
      rfl
    | failed =>
      simp only [portStep, turn, sendOne]
      split_ifs
      · exact face_carrierLost h
      · rfl
  | escape now =>
    simp only [portStep, turn, pollEscape]
    by_cases honline : p.modem.state = .online
    swap
    · simp only [honline, false_and, if_false]
      rfl
    by_cases hesc : p.modem.plusCount = 3 ∧ modemGuardMs ≤ now - p.modem.lastPlusMs
    · have hplus : 0 < p.modem.plusCount := by omega
      rw [if_pos ⟨honline, hplus⟩, if_pos hesc, if_pos ⟨honline, hesc⟩, face_result _ (by decide)]
      simp only [face, view_emit, modem_emit, view_mk, View.note, Turn.face]
      rfl
    · have hno : ¬(p.modem.state = .online ∧ p.modem.plusCount = 3 ∧ modemGuardMs ≤ now - p.modem.lastPlusMs) :=
        fun hc => hesc hc.2
      obtain ⟨hstate, hfd⟩ := flushPlus_frame p.modem
      rw [if_neg hno, if_neg hesc]
      split_ifs
      · exact face_congr hstate hfd
      · rfl
      · rfl
  | deliver =>
    simp only [portStep, pollDeliver]
    split_ifs
    · exact face_quietly rfl rfl rfl
    · rfl
  | apply mode => exact face_apply h mode
  | machineReset mode =>
    have hreset : face (p.emit .uartReset) = { face p with dcd := false } := by
      simp only [face, view_emit, modem_emit, View.note]
    have happly := face_apply (p := p.emit .uartReset) (hreset ▸ ⟨h.offline, h.link, h.connecting⟩) mode
    rw [hreset] at happly
    exact happly

end Pieces

/-! ## Runs -/

/-- The turn is one the state allows. -/
def Turn.Able (f : Face) : Turn → Prop
  | stays | hangsUp | drops | dials | connects => True
  | escapes => f.state = .online
  | returns => f.held = true

lemma Face.Kept.turn {f : Face} (h : f.Kept) {quiet : Bool} {t : Turn} (ht : t.Able f) : (t.face f quiet).Kept := by
  cases t with
  | stays => exact h
  | escapes =>
    have hheld : f.held = true := by
      by_contra hno
      have hoff := h.offline.mpr (Bool.not_eq_true _ ▸ hno)
      rw [show f.state = .online from ht] at hoff
      cases hoff
    exact ⟨iff_of_false (by simp [Turn.face]) (by simp [Turn.face, hheld]), h.link, fun hc => by cases hc⟩
  | returns =>
    have hheld : f.held = true := ht
    exact ⟨iff_of_false (by simp [Turn.face]) (by simp [Turn.face, hheld]), h.link, fun hc => by cases hc⟩
  | hangsUp | drops => exact ⟨iff_of_true rfl rfl, iff_of_true rfl rfl, fun hc => by cases hc⟩
  | dials | connects =>
    exact ⟨iff_of_false (by simp [Turn.face]) (by simp [Turn.face]),
      iff_of_false (by simp [Turn.face]) (by simp [Turn.face]), fun hc => by first | rfl | cases hc⟩

lemma turn_able (p : SerialPort) (a : PortStep) : (turn p a).Able (face p) := by
  have hattempt (r : Option (Attempt × List Sockaddr)) : (Turn.ofAttempt r).Able (face p) := by
    cases r with
    | none => trivial
    | some r => by_cases h : r.1.outcome = .made <;> simp [Turn.ofAttempt, h, Turn.Able]
  cases a with
  | write data host =>
    simp only [turn]
    split_ifs
    swap
    · trivial
    cases asked p data with
    | none => trivial
    | some c =>
      cases c with
      | dial number =>
        simp only [Option.map_some, Option.getD_some, Turn.ofCommand]
        split_ifs
        · trivial
        · exact hattempt _
      | hangUp =>
        simp only [Option.map_some, Option.getD_some, Turn.ofCommand]
        split_ifs <;> trivial
      | returnOnline =>
        simp only [Option.map_some, Option.getD_some, Turn.ofCommand]
        split_ifs with hfd
        · exact held_eq_true.mpr hfd
        · trivial
      | _ => trivial
  | connect r attempt =>
    simp only [turn, Turn.ofConnect]
    split_ifs
    swap
    · trivial
    cases r <;> dsimp only <;> split_ifs <;> first | trivial | exact hattempt _
  | recv r =>
    cases r <;> simp only [turn] <;> (try split_ifs) <;> trivial
  | send r =>
    cases r <;> simp only [turn] <;> (try split_ifs) <;> trivial
  | escape now =>
    simp only [turn]
    split_ifs with hesc
    · exact hesc.1
    · trivial
  | ctrl mcr | busReset =>
    simp only [turn]
    split_ifs <;> trivial
  | deliver | apply mode | machineReset mode => trivial

lemma kept_step {p : SerialPort} (h : (face p).Kept) (a : PortStep) : (face (portStep p a)).Kept := by
  rw [face_step h]
  exact h.turn (turn_able p a)

lemma kept_init : (face modemStateInit).Kept := ⟨by decide, by decide, by decide⟩

/-- The modem is online just when it has a connection that was made, and CONNECT was reported only where data mode
began over one. -/
structure ModeAgrees (p : SerialPort) : Prop where
  mode : (p.modem.state = .online ∨ p.modem.state = .commandOnline) ↔ (view p).link = .up
  offline : p.modem.state = .offline ↔ p.modem.fd < 0
  reports : (view p).sound = true

/-- **The carrier line too** is what the bus says, and set just while there is a connection. -/
structure CarrierAgrees (p : SerialPort) : Prop where
  mode : ModeAgrees p
  status : (view p).dcd = true ↔ modemStatusBits p.modem &&& serialStatDcd ≠ 0
  carrier : (view p).dcd = true ↔ (view p).link = .up

/-- `ATO` does not come before the connection is up. -/
def NoEarlyOnline (p : SerialPort) : PortStep → Prop
  | .write data _ => p.attached = true → p.modem.state = .connecting → asked p data ≠ some .returnOnline
  | _ => True

/-- A number is called only where the host makes the connection at once, or fails at once and there was none
before; and no connection is given up by a reset of the bus or by a new backend. -/
def CarrierKept (p : SerialPort) : PortStep → Prop
  | .write data host =>
    p.attached = true → ∀ number, asked p data = some (.dial number) → (dialTarget number).1 ≠ [] →
      match dialled number host with
      | some (a, _) => a.outcome = .made
      | none => p.modem.fd < 0
  | .busReset => p.attached = true → p.modem.fd < 0
  | .apply _ => p.modem.fd < 0
  | _ => True

/-- The mode says whether the connection is up. -/
def Face.Moded (f : Face) : Prop :=
  ((f.state = .online ∨ f.state = .commandOnline) ↔ f.link = .up) ∧ f.sound = true

/-- Carrier says so too. -/
def Face.Carried (f : Face) : Prop := f.Moded ∧ f.dcd = f.held ∧ (f.dcd = true ↔ f.link = .up)

lemma modeAgrees_iff {p : SerialPort} (h : (face p).Kept) : ModeAgrees p ↔ (face p).Moded := by
  constructor
  · intro hp
    exact ⟨hp.mode, hp.reports⟩
  · intro hf
    exact ⟨hf.1, h.offline.trans held_eq_false, hf.2⟩

lemma carrierAgrees_iff {p : SerialPort} (h : (face p).Kept) : CarrierAgrees p ↔ (face p).Carried := by
  have hstatus : modemStatusBits p.modem &&& serialStatDcd ≠ 0 ↔ (face p).held = true := by
    rw [← decide_eq_true_iff (p := modemStatusBits p.modem &&& serialStatDcd ≠ 0), statusBits_dcd]
    rfl
  constructor
  · intro hp
    exact ⟨(modeAgrees_iff h).mp hp.mode, Bool.eq_iff_iff.mpr (hp.status.trans hstatus), hp.carrier⟩
  · rintro ⟨hmode, hdcd, hcarrier⟩
    exact ⟨(modeAgrees_iff h).mpr hmode, (Bool.eq_iff_iff.mp hdcd).trans hstatus.symm, hcarrier⟩

lemma Face.Kept.moded_turn {f : Face} (h : f.Kept) (hf : f.Moded) {quiet : Bool} {t : Turn} (ht : t.Able f) :
    (t.face f quiet).Moded ↔ (t = .returns → f.state ≠ .connecting) := by
  obtain ⟨hmode, hsound⟩ := hf
  cases t with
  | stays => exact iff_of_true ⟨hmode, hsound⟩ fun hc => by cases hc
  | escapes =>
    have hup : f.link = .up := hmode.mp (Or.inl ht)
    exact iff_of_true ⟨iff_of_true (Or.inr rfl) hup, hsound⟩ fun hc => by cases hc
  | hangsUp | drops | dials =>
    exact iff_of_true ⟨iff_of_false (by simp [Turn.face]) (by simp [Turn.face]), hsound⟩ fun hc => by cases hc
  | connects => exact iff_of_true ⟨iff_of_true (Or.inl rfl) rfl, hsound⟩ fun hc => by cases hc
  | returns =>
    have hheld : f.held = true := ht
    have hoff : f.state ≠ .offline := fun hc => by simp [h.offline.mp hc] at hheld
    by_cases hconn : f.state = .connecting
    · refine iff_of_false (fun hm => ?_) (fun hc => hc rfl hconn)
      have hup : f.link = .up := hm.1.mp (Or.inl rfl)
      simp [h.connecting hconn] at hup
    · have hup : f.link = .up := by
        apply hmode.mp
        cases hs : f.state <;> simp_all
      exact iff_of_true ⟨iff_of_true (Or.inl rfl) hup, by simp [Turn.face, hsound, hup, Link.isUp]⟩ fun _ => hconn

lemma Face.Carried.turn {f : Face} (hf : f.Carried) {quiet : Bool} {t : Turn} (ht : t.Able f) :
    (t.face f quiet).Carried ↔ t ≠ .dials ∧ (t = .drops → f.held = false) := by
  obtain ⟨hmoded, hdcd, hcarrier⟩ := hf
  cases t with
  | stays => exact iff_of_true ⟨hmoded, hdcd, hcarrier⟩ ⟨by decide, fun hc => by cases hc⟩
  | escapes =>
    have hup : f.link = .up := hmoded.1.mp (Or.inl ht)
    exact iff_of_true ⟨⟨iff_of_true (Or.inr rfl) hup, hmoded.2⟩, hdcd, hcarrier⟩ ⟨by decide, fun hc => by cases hc⟩
  | hangsUp =>
    exact iff_of_true
      ⟨⟨iff_of_false (by simp [Turn.face]) (by simp [Turn.face]), hmoded.2⟩, rfl, by simp [Turn.face]⟩
      ⟨by decide, fun hc => by cases hc⟩
  | drops =>
    constructor
    · rintro ⟨-, hdcd', -⟩
      exact ⟨by decide, fun _ => hdcd.symm.trans hdcd'⟩
    · rintro ⟨-, hheld⟩
      have hclear : f.dcd = false := hdcd.trans (hheld rfl)
      exact ⟨⟨iff_of_false (by simp [Turn.face]) (by simp [Turn.face]), hmoded.2⟩, hclear,
        iff_of_false (by simp [Turn.face, hclear]) (by simp [Turn.face])⟩
  | dials =>
    refine iff_of_false (fun hc => ?_) fun hc => hc.1 rfl
    have hup := hc.2.2.mp hc.2.1
    cases hup
  | connects =>
    exact iff_of_true ⟨⟨iff_of_true (Or.inl rfl) rfl, hmoded.2⟩, rfl, by simp [Turn.face]⟩
      ⟨by decide, fun hc => by cases hc⟩
  | returns =>
    have hup : f.link = .up := hcarrier.mp (hdcd.trans ht)
    exact iff_of_true
      ⟨⟨iff_of_true (Or.inl rfl) hup, by simp [Turn.face, hmoded.2, hup, Link.isUp]⟩, hdcd, hcarrier⟩
      ⟨by decide, fun hc => by cases hc⟩

lemma turn_returns {p : SerialPort} {a : PortStep} (h : turn p a = .returns) :
    ∃ data host, a = .write data host ∧ p.attached = true ∧ asked p data = some .returnOnline := by
  have hattempt (r : Option (Attempt × List Sockaddr)) : Turn.ofAttempt r ≠ .returns := by
    cases r with
    | none => simp [Turn.ofAttempt]
    | some r => by_cases h : r.1.outcome = .made <;> simp [Turn.ofAttempt, h]
  cases a with
  | write data host =>
    refine ⟨data, host, rfl, ?_⟩
    simp only [turn] at h
    split_ifs at h with hatt
    refine ⟨hatt, ?_⟩
    cases hasked : asked p data with
    | none => simp [hasked] at h
    | some c =>
      simp only [hasked, Option.map_some, Option.getD_some] at h
      cases c with
      | returnOnline => rfl
      | dial number =>
        simp only [Turn.ofCommand] at h
        split_ifs at h
        exact absurd h (hattempt _)
      | hangUp =>
        simp only [Turn.ofCommand] at h
        split_ifs at h
      | _ => simp [Turn.ofCommand] at h
  | connect r attempt =>
    simp only [turn, Turn.ofConnect] at h
    split_ifs at h
    cases r <;> dsimp only at h <;> split_ifs at h <;> exact absurd h (hattempt _)
  | recv r => cases r <;> simp only [turn] at h <;> (try split_ifs at h) <;> cases h
  | send r => cases r <;> simp only [turn] at h <;> (try split_ifs at h) <;> cases h
  | ctrl mcr | busReset | escape now =>
    simp only [turn] at h
    split_ifs at h
  | deliver | apply mode | machineReset mode => cases h

lemma noEarlyOnline_iff {p : SerialPort} (h : (face p).Kept) (a : PortStep) :
    NoEarlyOnline p a ↔ (turn p a = .returns → p.modem.state ≠ .connecting) := by
  constructor
  · intro hno hturn hconn
    obtain ⟨data, host, rfl, hatt, hasked⟩ := turn_returns hturn
    exact hno hatt hconn hasked
  · intro hturn
    cases a with
    | write data host =>
      intro hatt hconn hasked
      have hfd : 0 ≤ p.modem.fd := by
        by_contra hneg
        have hoff : p.modem.state = .offline := h.offline.mpr (held_eq_false.mpr (not_le.mp hneg))
        rw [hconn] at hoff
        cases hoff
      refine hturn ?_ hconn
      simp [turn, hatt, hasked, Turn.ofCommand, hfd]
    | _ => trivial

lemma carrierKept_iff {p : SerialPort} (hf : (face p).Carried) (h : (face p).Kept) (a : PortStep) :
    CarrierKept p a ↔ turn p a ≠ .dials ∧ (turn p a = .drops → (face p).held = false) := by
  have hheld : (face p).held = false ↔ p.modem.fd < 0 := held_eq_false
  have hconn : p.modem.state ≠ .connecting := by
    intro hconn
    have hlink : (face p).link = .connecting := h.connecting hconn
    have hdcd : (face p).dcd = true := by
      rw [hf.2.1]
      by_contra hno
      have hoff : p.modem.state = .offline := h.offline.mpr (Bool.not_eq_true _ ▸ hno)
      rw [hconn] at hoff
      cases hoff
    have hup := hf.2.2.mp hdcd
    rw [hlink] at hup
    cases hup
  cases a with
  | write data host =>
    simp only [CarrierKept, turn, hheld]
    by_cases hatt : p.attached = true
    swap
    · simp [hatt]
    simp only [hatt, if_true, true_implies]
    cases asked p data with
    | none => simp
    | some c =>
      cases c with
      | dial number =>
        simp only [Option.some.injEq, Command.dial.injEq, forall_eq', Option.map_some, Option.getD_some,
          Turn.ofCommand]
        by_cases htarget : (dialTarget number).1 = []
        · simp [htarget]
        cases dialled number host with
        | none => simp [htarget, Turn.ofAttempt]
        | some r => by_cases hmade : r.1.outcome = .made <;> simp [htarget, Turn.ofAttempt, hmade]
      | hangUp | returnOnline =>
        simp only [Option.map_some, Option.getD_some, Turn.ofCommand]
        split_ifs <;> simp
      | _ => simp [Turn.ofCommand]
  | busReset => by_cases hatt : p.attached = true <;> simp [CarrierKept, turn, hheld, hatt]
  | connect r attempt => simp [CarrierKept, turn, Turn.ofConnect, hconn]
  | apply mode => simp [CarrierKept, turn, hheld]
  | recv r =>
    cases r <;> simp only [CarrierKept, turn] <;> (try split_ifs) <;> simp
  | send r =>
    cases r <;> simp only [CarrierKept, turn] <;> (try split_ifs) <;> simp
  | ctrl mcr | escape now =>
    simp only [CarrierKept, turn]
    split_ifs <;> simp
  | deliver | machineReset mode => simp [CarrierKept, turn]

/-- **Mode and carrier, over any calls.**  The modem is offline just when it has no socket, whatever is done.  It
agrees with its connection after every step just when ATO is never typed too early; and the carrier line does too
just when `CarrierKept` holds of every step. -/
theorem carrier_agrees_iff (calls : List PortCall) :
    let steps := calls.flatMap PortCall.steps
    exec portCall modemStateInit calls = exec portStep modemStateInit steps ∧
    Along portStep (fun p a => (portStep p a).modem.state = .offline ↔ (portStep p a).modem.fd < 0) modemStateInit
      steps ∧
    (Along portStep NoEarlyOnline modemStateInit steps ↔
      Along portStep (fun p a => ModeAgrees (portStep p a)) modemStateInit steps) ∧
    (Along portStep CarrierKept modemStateInit steps ↔
      Along portStep (fun p a => CarrierAgrees (portStep p a)) modemStateInit steps) := by
  intro steps
  have hmoded : (face modemStateInit).Moded := ⟨by decide, by decide⟩
  have hcarried : (face modemStateInit).Carried := ⟨hmoded, by decide, by decide⟩
  refine ⟨exec_portCall _ calls, ?_, ?_, ?_⟩
  · refine along_of_inv (I := fun p => (face p).Kept) (C := fun _ _ => True) (fun p a h _ => kept_step h a)
      (fun p a h _ => ?_) steps modemStateInit kept_init (along_of_forall fun _ _ _ => trivial)
    exact (kept_step h a).offline.trans held_eq_false
  · have hone {p : SerialPort} (h : (face p).Kept ∧ (face p).Moded) (a : PortStep) :
        NoEarlyOnline p a ↔ ModeAgrees (portStep p a) := by
      rw [noEarlyOnline_iff h.1, modeAgrees_iff (kept_step h.1 a), face_step h.1, h.1.moded_turn h.2 (turn_able p a)]
      rfl
    exact along_iff_of_inv (I := fun p => (face p).Kept ∧ (face p).Moded)
      (fun p a h hc => ⟨kept_step h.1 a, (modeAgrees_iff (kept_step h.1 a)).mp ((hone h a).mp hc)⟩)
      (fun p a h => hone h a) steps modemStateInit ⟨kept_init, hmoded⟩
  · have hone {p : SerialPort} (h : (face p).Kept ∧ (face p).Carried) (a : PortStep) :
        CarrierKept p a ↔ CarrierAgrees (portStep p a) := by
      rw [carrierKept_iff h.2 h.1, carrierAgrees_iff (kept_step h.1 a), face_step h.1,
        h.2.turn (turn_able p a)]
    exact along_iff_of_inv (I := fun p => (face p).Kept ∧ (face p).Carried)
      (fun p a h hc => ⟨kept_step h.1 a, (carrierAgrees_iff (kept_step h.1 a)).mp ((hone h a).mp hc)⟩)
      (fun p a h => hone h a) steps modemStateInit ⟨kept_init, hcarried⟩

def typeLine (line : List Char) (host : WriteHost) : List PortCall :=
  (chars line ++ [0x0D]).map fun b => .write b host

def hostOf (outcome : ConnectOutcome) : WriteHost := ⟨0, fun _ _ => [[]], fun _ => ⟨3, outcome, 0⟩⟩

theorem online_before_connected :
    ¬∀ calls : List PortCall,
      Along portCall (fun p c => CarrierAgrees (portCall p c)) modemStateInit calls := by
  intro hall
  have h := hall (.apply .tcpModem :: typeLine ['A', 'T', 'D', 'h'] (hostOf .pending) ++
    typeLine ['A', 'T', 'O'] (hostOf .pending))
  have hlast := h (_, .write 0x0D (hostOf .pending)) (List.mem_of_getLast? rfl)
  exact absurd (hlast.mode.mode.mp (Or.inl (by decide))) (by decide)

end RpcEmu.Serial
