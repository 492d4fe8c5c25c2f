import RpcEmu.Serial.Connections

/-!
# From the network to the guest

What comes in on the socket is taken out of its telnet wrapping and goes through a ring to the UART, between the
modem's own words, as fast as there is room in the UART.

`guest` reads off the log what ought to have come of it: the data of the connections, what the modem has said, and
what the UART was given, each since the buffers were last emptied.  The bytes of the UART are the data and some of
the modem's words in between (`Fair`), with the rest in the ring.  A step keeps that where there is room for the data
that comes in, and where the ring is empty when the port is given another backend (`RoomForGuest`); the poll hands
out what is in the ring in any case.
-/

namespace RpcEmu.Serial

open CountedRing Telnet Runs

/-! ## What there was for the guest -/

/-- Since the buffers were emptied: the parser of what comes in, its data, the modem's own words, and what the UART
was given. -/
structure Intake where
  stream : Telnet.State
  data : List UInt8
  own : List UInt8
  uart : List UInt8
  deriving DecidableEq, Repr

structure Guest where
  past : List Intake
  now : Intake
  mine : Bool
  stray : List UInt8
  deriving DecidableEq, Repr

def Guest.note (g : Guest) : ModemEvent → Guest
  | .opened => { g with now := { g.now with stream := .data } }
  | .received bs =>
    let r := decode g.now.stream bs
    { g with now := { g.now with stream := r.1, data := g.now.data ++ dataOf r.2 } }
  | .own s => { g with now := { g.now with own := g.now.own ++ s } }
  | .uart b =>
    { g with
      now := { g.now with uart := g.now.uart ++ [b] }, stray := if g.mine then g.stray else g.stray ++ [b] }
  | .cleared => { g with past := g.now :: g.past, now := ⟨.data, [], [], []⟩ }
  | .backend mode => { g with mine := mode = .tcpModem }
  | _ => g

def guest (p : SerialPort) : Guest := p.log.foldl Guest.note ⟨[], ⟨.data, [], [], []⟩, false, []⟩

def fromNetwork (marked : List (Bool × UInt8)) : List UInt8 :=
  marked.filterMap fun t => if t.1 then some t.2 else none

def fromModem (marked : List (Bool × UInt8)) : List UInt8 :=
  marked.filterMap fun t => if t.1 then none else some t.2

/-- **What the UART was given** is the beginning of the data, with nothing in between but words of the modem. -/
def Fair (e : Intake) : Prop :=
  ∃ marked, marked.map Prod.snd = e.uart ∧ fromNetwork marked <+: e.data ∧ (fromModem marked).Sublist e.own

/-- **With what is in the ring** it is all of the data. -/
def AllThere (r : CountedRing.Ring UInt8) (e : Intake) : Prop :=
  ∃ marked, marked.map Prod.snd = e.uart ++ r.contents modemRingSize ∧ fromNetwork marked = e.data ∧
    (fromModem marked).Sublist e.own

def requests (received : List UInt8) : List (UInt8 × UInt8) :=
  (optionsOf (decode .data received).2).filter fun o => o.1 = telDo || o.1 = telWill

/-- **Each DO and WILL** has one answer, about its option, and the answers go out in their order. -/
structure Answered (c : Connection) : Prop where
  one : (answers c.received).map Prod.snd = (requests c.received).map Prod.snd
  replies : optionsOf (decode .data c.sent).2 <+: answers c.received

/-- The data that comes in has room in the ring for the guest, and that ring is empty when the port is given another
backend. -/
def RoomForGuest (p : SerialPort) : PortStep → Prop
  | .recv (.bytes bs) =>
    Reads p.modem → p.modem.rx.count + (dataOf (decode (parserState p.modem) bs).2).length ≤ modemRingSize
  | .apply mode | .machineReset mode => mode ≠ .tcpModem → p.modem.rx.count = 0
  | _ => True

instance (p : SerialPort) : (a : PortStep) → Decidable (RoomForGuest p a)
  | .recv (.bytes _) => inferInstanceAs (Decidable (_ → _))
  | .apply _ | .machineReset _ => inferInstanceAs (Decidable (_ → _))
  | .recv .interrupted | .recv .wouldBlock | .recv .failed => inferInstanceAs (Decidable True)
  | .write _ _ | .ctrl _ | .busReset | .connect _ _ | .send _ | .escape _ | .deliver =>
    inferInstanceAs (Decidable True)

lemma answered_one (received : List UInt8) :
    (answers received).map Prod.snd = (requests received).map Prod.snd := by
  have hanswer (o : UInt8 × UInt8) : (telnetAnswer o.1 o.2).map Prod.snd =
      if o.1 = telDo || o.1 = telWill then some o.2 else none := by
    unfold telnetAnswer
    have hne : telWill ≠ telDo := by decide
    by_cases hdo : o.1 = telDo
    · simp [hdo]
    · by_cases hwill : o.1 = telWill <;> simp [hdo, hwill, hne]
  unfold answers requests
  rw [List.map_filterMap]
  simp only [hanswer]
  rw [← List.filterMap_eq_filter, List.map_filterMap]
  congr 1
  funext o
  by_cases ho : o.1 = telDo || o.1 = telWill <;> simp_all [Option.guard]

/-! ## The ring for the guest -/

section Marks

variable {r : CountedRing.Ring UInt8} {e : Intake}

lemma fromNetwork_append (a b : List (Bool × UInt8)) : fromNetwork (a ++ b) = fromNetwork a ++ fromNetwork b :=
  List.filterMap_append

lemma fromModem_append (a b : List (Bool × UInt8)) : fromModem (a ++ b) = fromModem a ++ fromModem b :=
  List.filterMap_append

lemma marked_from (network : Bool) (bs : List UInt8) :
    (bs.map (Prod.mk network)).map Prod.snd = bs ∧
      fromNetwork (bs.map (Prod.mk network)) = (if network then bs else []) ∧
      fromModem (bs.map (Prod.mk network)) = if network then [] else bs := by
  refine ⟨by simp [Function.comp_def], ?_, ?_⟩ <;> cases network <;> simp [fromNetwork, fromModem, List.filterMap_map]

lemma AllThere.fair (h : AllThere r e) : Fair e := by
  obtain ⟨marked, hbytes, hdata, hown⟩ := h
  have htake : (marked.take e.uart.length).map Prod.snd = e.uart := by
    rw [List.map_take, hbytes, List.take_left]
  have htaken : marked.take e.uart.length <+: marked := List.take_prefix _ _
  exact ⟨_, htake, hdata ▸ htaken.filterMap _, ((List.take_sublist _ _).filterMap _).trans hown⟩

lemma AllThere.own (h : AllThere r e) (hgood : Good modemRingSize r) (s : List UInt8) :
    AllThere (puts r s) { e with own := e.own ++ s } := by
  obtain ⟨marked, hbytes, hdata, hown⟩ := h
  obtain ⟨hs, hnet, hmodem⟩ := marked_from false (s.take (modemRingSize - r.count))
  refine ⟨marked ++ (s.take (modemRingSize - r.count)).map (Prod.mk false), ?_, ?_, ?_⟩
  · rw [List.map_append, hbytes, hs, contents_puts_take hgood, List.append_assoc]
  · rw [fromNetwork_append, hnet, hdata]
    simp
  · rw [fromModem_append, hmodem]
    exact hown.append (List.take_sublist _ _)

lemma AllThere.receive (h : AllThere r e) (hgood : Good modemRingSize r) {bs : List UInt8} {t : Telnet.State}
    (hroom : r.count + bs.length ≤ modemRingSize) :
    AllThere (puts r bs) { e with stream := t, data := e.data ++ bs } := by
  obtain ⟨marked, hbytes, hdata, hown⟩ := h
  obtain ⟨hs, hnet, hmodem⟩ := marked_from true bs
  refine ⟨marked ++ bs.map (Prod.mk true), ?_, ?_, ?_⟩
  · rw [List.map_append, hbytes, hs, contents_puts hgood hroom, List.append_assoc]
  · rw [fromNetwork_append, hnet, hdata]
    rfl
  · rw [fromModem_append, hmodem]
    simpa using hown

lemma AllThere.deliver (h : AllThere r e) (hgood : Good modemRingSize r) (hcount : 0 < r.count) :
    AllThere (r.advance modemRingSize 1) { e with uart := e.uart ++ [r.slots r.tail] } := by
  obtain ⟨marked, hbytes, hdata, hown⟩ := h
  refine ⟨marked, ?_, hdata, hown⟩
  have hpop := contents_pop hgood hcount
  rw [contents_advance, hbytes, hpop, List.drop_succ_cons, List.drop_zero, List.append_assoc]
  rfl

end Marks

/-! ## What is kept -/

@[simp] lemma guest_emit (p : SerialPort) (e : ModemEvent) : guest (p.emit e) = (guest p).note e := by
  simp [guest, SerialPort.emit]

@[simp] lemma guest_mk (p : SerialPort) (m : ModemState) (b : Bool) : guest ⟨m, b, p.log⟩ = guest p := rfl

/-- The guest has, or will have, all that came in. -/
structure Incoming (m : ModemState) (attached : Bool) (g : Guest) : Prop where
  rx : Good modemRingSize m.rx
  stream : 0 ≤ m.fd → g.now.stream = parserState m
  whole : AllThere m.rx g.now
  past : ∀ e ∈ g.past, Fair e
  mine : g.mine = attached
  idle : attached = false → m.fd < 0 ∧ m.rx.count = 0
  stray : g.stray = []

lemma Incoming.congr {m m' : ModemState} {attached : Bool} {g : Guest} (h : Incoming m attached g)
    (hrx : m'.rx = m.rx) (hfd : 0 ≤ m'.fd → 0 ≤ m.fd) (hparser : 0 ≤ m'.fd → parserState m' = parserState m) :
    Incoming m' attached g where
  rx := by rw [hrx]; exact h.rx
  stream := fun hm => (h.stream (hfd hm)).trans (hparser hm).symm
  whole := by rw [hrx]; exact h.whole
  past := h.past
  mine := h.mine
  idle := fun hatt => by
    have hidle := h.idle hatt
    exact ⟨not_le.mp fun hm => absurd (hfd hm) (not_le.mpr hidle.1), by rw [hrx]; exact hidle.2⟩
  stray := h.stray

lemma Incoming.attached {m : ModemState} {attached : Bool} {g : Guest} (h : Incoming m attached g) (hfd : 0 ≤ m.fd) :
    attached = true := by
  by_contra hno
  exact absurd (h.idle (Bool.not_eq_true _ ▸ hno)).1 (not_lt.mpr hfd)

lemma Incoming.clear {m m' : ModemState} {attached attached' mine : Bool} {g : Guest} (h : Incoming m attached g)
    (hrx : m'.rx = m.rx.clear) (hfd : m'.fd < 0) (hmine : mine = attached') :
    Incoming m' attached' { g with past := g.now :: g.past, now := ⟨.data, [], [], []⟩, mine } where
  rx := by rw [hrx]; exact good_clear (by decide) _
  stream := fun hm => absurd hfd (not_lt.mpr hm)
  whole := by rw [hrx]; exact ⟨[], rfl, rfl, List.Sublist.refl _⟩
  past := by
    intro e he
    rcases List.mem_cons.mp he with rfl | he
    · exact h.whole.fair
    · exact h.past e he
  mine := hmine
  idle := fun _ => ⟨hfd, by rw [hrx]; rfl⟩
  stray := h.stray

lemma Incoming.open {m m' : ModemState} {g : Guest} (h : Incoming m true g) (hrx : m'.rx = m.rx)
    (hparser : parserState m' = .data) :
    Incoming m' true { g with now := { g.now with stream := .data } } where
  rx := by rw [hrx]; exact h.rx
  stream := fun _ => hparser.symm
  whole := by rw [hrx]; exact h.whole
  past := h.past
  mine := h.mine
  idle := fun hno => by cases hno
  stray := h.stray

/-- `Incoming`, of a port. -/
def Fed (p : SerialPort) : Prop := Incoming p.modem p.attached (guest p)

section Steps

variable {p : SerialPort}

lemma Fed.emit (h : Fed p) {e : ModemEvent} (he : (guest p).note e = guest p) : Fed (p.emit e) := by
  unfold Fed
  rw [guest_emit, he]
  exact h

lemma Fed.changed (h : Fed p) {m : ModemState} (hrx : m.rx = p.modem.rx) (hfd : 0 ≤ m.fd → 0 ≤ p.modem.fd)
    (hparser : 0 ≤ m.fd → parserState m = parserState p.modem) : Fed { p with modem := m } :=
  Incoming.congr h hrx hfd hparser

lemma Fed.own (h : Fed p) (hatt : p.attached = true) (s : List UInt8) : Fed (modemToGuestStr p s) := by
  have hrx : (s.foldl modemRxPut p.modem).rx = puts p.modem.rx s := by
    generalize p.modem = m
    induction s generalizing m with
    | nil => rfl
    | cons b s ih => exact ih (modemRxPut m b)
  have hframe := (modemRxPuts_frame p.modem s).eq
  rw [hrx] at hframe
  unfold Fed modemToGuestStr
  rw [hframe, guest_emit, guest_mk]
  exact
    { rx := good_puts h.rx s
      stream := h.stream
      whole := h.whole.own h.rx s
      past := h.past
      mine := h.mine
      idle := fun hno => absurd (hatt.symm.trans hno) (by decide)
      stray := h.stray }

lemma Fed.result (h : Fed p) (hatt : p.attached = true) (code : ResultCode) :
    Fed (modemResult p code) := by
  unfold modemResult
  split_ifs
  · exact h
  · exact (h.own hatt _).emit rfl
  · exact (h.own hatt _).emit rfl

lemma Fed.updateMsr (h : Fed p) : Fed (updateMsr p) := h.emit rfl

lemma guest_close : guest (modemClose p) = guest p := by
  unfold modemClose
  split_ifs
  · rw [guest_mk, closesocket, guest_emit]
    rfl
  · rfl

lemma rx_close : (modemClose p).modem.rx = p.modem.rx := by
  unfold modemClose
  split_ifs <;> rfl

lemma attached_close : (modemClose p).attached = p.attached := by
  unfold modemClose
  split_ifs <;> rfl

lemma Fed.close (h : Fed p) : Fed (modemClose p) := by
  unfold Fed
  rw [guest_close, attached_close]
  exact Incoming.congr h rx_close (fun hm => absurd fd_close (not_lt.mpr hm))
    fun hm => absurd fd_close (not_lt.mpr hm)

lemma Fed.carrierLost (h : Fed p) (hatt : p.attached = true) : Fed (modemCarrierLost p) :=
  h.close.updateMsr.result (attached_close.trans hatt) _

lemma guest_resetState : guest (modemResetState p) = (guest p).note .cleared := by
  rw [← guest_close (p := p)]
  simp only [modemResetState, guest_emit, guest_mk]

lemma Fed.resetState (h : Fed p) : Fed (modemResetState p) := by
  unfold Fed
  rw [guest_resetState]
  exact Incoming.clear h (congrArg CountedRing.Ring.clear rx_close) fd_close (h.mine.trans attached_close.symm)

lemma Fed.apply (h : Fed p) (mode : PeripheralSerialMode) (hempty : mode ≠ .tcpModem → p.modem.rx.count = 0) :
    Fed (serialApplyPort p mode) := by
  have hbackend : guest (({ modemClose p with attached := false } : SerialPort).emit (.backend mode)) =
      { guest p with mine := mode = .tcpModem } := by
    rw [guest_emit, guest_mk, guest_close]
    rfl
  cases mode with
  | tcpModem =>
    have hguest : guest (serialApplyPort p .tcpModem) =
        { guest p with past := (guest p).now :: (guest p).past, now := ⟨.data, [], [], []⟩, mine := true } := by
      change guest (modemResetState _) = _
      rw [guest_resetState, hbackend]
      rfl
    have hrx : (serialApplyPort p .tcpModem).modem.rx = p.modem.rx.clear :=
      congrArg CountedRing.Ring.clear (rx_close.trans rx_close)
    unfold Fed
    rw [hguest]
    exact Incoming.clear h hrx fd_close rfl
  | disabled | logToFile | physicalDevice =>
    have hzero := hempty (by decide)
    unfold Fed
    change Incoming _ _ (guest (SerialPort.emit _ _))
    rw [hbackend]
    exact
      { rx := h.close.rx
        stream := fun hm => absurd fd_close (not_lt.mpr hm)
        whole := by
          change AllThere (modemClose p).modem.rx _
          rw [rx_close]
          exact h.whole
        past := h.past
        mine := rfl
        idle := fun _ => ⟨fd_close, by
          change (modemClose p).modem.rx.count = 0
          rw [rx_close]
          exact hzero⟩
        stray := h.stray }

lemma Fed.onConnected (h : Fed p) (hatt : p.attached = true) (hstream : (guest p).now.stream = .data) (now : Int) :
    Fed (modemOnConnected p now) := by
  refine Fed.result (Fed.updateMsr ?_) ?_ _
  swap
  · exact hatt
  unfold Fed
  rw [guest_emit, guest_mk]
  exact
    { rx := h.rx
      stream := fun _ => hstream
      whole := h.whole
      past := h.past
      mine := h.mine
      idle := fun hno => absurd (hatt.symm.trans hno) (by decide)
      stray := h.stray }

lemma Fed.opened (h : Fed p) (hatt : p.attached = true) {m : ModemState} (hrx : m.rx = p.modem.rx)
    (hparser : parserState m = .data) : Fed (SerialPort.emit { p with modem := m } .opened) := by
  unfold Fed at h ⊢
  rw [hatt] at h
  rw [guest_emit, guest_mk]
  change Incoming m p.attached _
  rw [hatt]
  exact h.open hrx hparser

lemma Fed.tryNextAddress (h : Fed p) (hatt : p.attached = true) (hfd : p.modem.fd < 0)
    (htstate : p.modem.tstate = .data) (attempt : List Sockaddr → Attempt) (ais : List Sockaddr) :
    Fed (modemTryNextAddress attempt p ais) := by
  have hparser : parserState p.modem = .data := by rw [parserState, htstate]
  induction ais with
  | nil =>
    refine Fed.result ?_ ?_ _
    · exact h.changed rfl (fun hm => absurd hm (not_le.mpr hfd)) fun _ => rfl
    · exact hatt
  | cons ai rest ih =>
    simp only [modemTryNextAddress]
    split_ifs
    · exact ih
    cases (attempt (ai :: rest)).outcome with
    | failed => exact ih
    | made =>
      have hopened : Fed (SerialPort.emit
          { p with modem := { p.modem with fd := (attempt (ai :: rest)).fd, aiNext := rest } } .opened) :=
        h.opened hatt rfl hparser
      have hmade := hopened.emit (e := .completed) rfl
      refine hmade.onConnected hatt ?_ _
      rw [guest_emit, guest_emit]
      rfl
    | pending => exact Fed.opened h hatt rfl hparser

lemma Fed.dial (h : Fed p) (hatt : p.attached = true) (number : List UInt8) (host : WriteHost) :
    Fed (modemDial p number host) := by
  have hatt' : (modemClose p).attached = true := attached_close.trans hatt
  by_cases htarget : (dialTarget number).1 = []
  · rw [modemDial, if_pos htarget]
    exact h.result hatt _
  rw [modemDial, if_neg htarget]
  cases hres : host.resolve (dialTarget number).1 (dialTarget number).2 with
  | nil => exact h.close.result hatt' _
  | cons ai rest =>
    have hclosed : Fed
        { modemClose p with modem := { (modemClose p).modem with aiNext := ai :: rest, telnet := true } } :=
      h.close.changed rfl id fun _ => rfl
    exact hclosed.tryNextAddress hatt' fd_close rfl host.attempt (ai :: rest)

lemma toggles_rx (m : ModemState) (s : List UInt8) : (modemToggles m s).rx = m.rx := by
  induction s generalizing m with
  | nil => rfl
  | cons b s ih =>
    simp only [modemToggles]
    split_ifs <;> exact ih _

lemma Fed.processCommand (h : Fed p) (hatt : p.attached = true) (host : WriteHost) :
    Fed (modemProcessCommand p host) := by
  unfold modemProcessCommand
  cases parseCommand p.modem.line with
  | blank => exact h
  | invalid | bare => exact h.result hatt _
  | dial number => exact h.dial hatt number host
  | hangUp =>
    dsimp only
    split_ifs
    · exact h.carrierLost hatt
    · exact h.result hatt _
  | returnOnline =>
    dsimp only
    split_ifs
    · have honline : Fed { p with modem := { p.modem with state := .online, lastTxMs := host.now } } :=
        h.changed rfl id fun _ => rfl
      have hseen := honline.emit (e := .entered host.now) rfl
      exact hseen.result hatt _
    · exact h.result hatt _
  | configure s =>
    have hwire := congrArg Wire.parser (toggles_frame p.modem s).1
    have hfd := (modemToggles_frame p.modem s).2
    have htoggled : Fed { p with modem := modemToggles p.modem s } :=
      h.changed (toggles_rx p.modem s) (fun hm => hfd ▸ hm) fun _ => hwire
    dsimp only
    split_ifs
    · exact (htoggled.own hatt _).result hatt _
    · exact htoggled.result hatt _

lemma toSockets_rx (m : ModemState) (bs : List UInt8) :
    (bs.foldl modemToSocket m).rx = m.rx ∧ (bs.foldl modemToSocket m).fd = m.fd ∧
      parserState (bs.foldl modemToSocket m) = parserState m := by
  rw [modemToSockets_frame]
  exact ⟨rfl, rfl, rfl⟩

lemma dataTxByte_rx (m : ModemState) (b : UInt8) (now : Int) :
    (modemDataTxByte m b now).rx = m.rx ∧ (modemDataTxByte m b now).fd = m.fd ∧
      parserState (modemDataTxByte m b now) = parserState m := by
  unfold modemDataTxByte
  split_ifs
  · exact ⟨rfl, rfl, rfl⟩
  · obtain ⟨hrx, hfd, hparser⟩ := toSockets_rx m (List.replicate m.plusCount 0x2B)
    obtain ⟨hrx', hfd', hparser'⟩ := toSockets_rx (flushPlus m) [b]
    exact ⟨hrx'.trans hrx, hfd'.trans hfd, hparser'.trans hparser⟩

lemma Fed.write (h : Fed p) (hatt : p.attached = true) (data : UInt8) (host : WriteHost) :
    Fed (modemOnWrite p data host) := by
  unfold modemOnWrite
  by_cases honline : p.modem.state = .online
  · obtain ⟨hrx, hfd, hparser⟩ := dataTxByte_rx p.modem data host.now
    rw [if_pos honline]
    have hsent : Fed { p with modem := modemDataTxByte p.modem data host.now } :=
      h.changed hrx (fun hm => hfd ▸ hm) fun _ => hparser
    exact hsent.emit rfl
  rw [if_neg honline]
  obtain ⟨hecho, hatt'⟩ : Fed
      (if p.modem.echo then modemToGuestStr p (if data = 0x0D then crlf else [data]) else p) ∧
      (if p.modem.echo then modemToGuestStr p (if data = 0x0D then crlf else [data]) else p).attached = true := by
    split_ifs
    · exact ⟨h.own hatt _, hatt⟩
    · exact ⟨h.own hatt _, hatt⟩
    · exact ⟨h, hatt⟩
  generalize (if p.modem.echo then modemToGuestStr p (if data = 0x0D then crlf else [data]) else p) = q
    at hecho hatt' ⊢
  dsimp only
  split_ifs
  · exact hecho
  · exact (hecho.processCommand hatt' host).changed rfl id fun _ => rfl
  · exact hecho.changed rfl id fun _ => rfl
  · exact hecho.changed rfl id fun _ => rfl
  · exact hecho

lemma Fed.ctrl (h : Fed p) (hatt : p.attached = true) (mcr : UInt8) : Fed (modemOnCtrl p mcr) := by
  unfold modemOnCtrl
  dsimp only
  split_ifs
  · exact (h.carrierLost hatt).changed rfl id fun _ => rfl
  · exact h.changed rfl id fun _ => rfl

lemma Fed.connect (h : Fed p) (hsound : Sound p) (r : Readiness) (attempt : List Sockaddr → Attempt) :
    Fed (pollConnect p r attempt) := by
  unfold pollConnect
  split_ifs with hc
  swap
  · exact h
  have hatt := h.attached hc.2
  have htstate := hsound.tstate_connecting hc.1 hc.2
  have hparser : parserState p.modem = .data := by rw [parserState, htstate]
  have hno : Fed { p with modem := { p.modem with fd := -1 } } := by
    have hneg : ¬ (0 : Int) ≤ -1 := by decide
    exact h.changed rfl (fun hm => absurd hm hneg) fun hm => absurd hm hneg
  have hclosed : Fed (closesocket p) := hno.emit (e := .closed) rfl
  have hnext := hclosed.tryNextAddress hatt (Int.negSucc_lt_zero 0) htstate attempt (closesocket p).modem.aiNext
  cases r with
  | ready err now =>
    dsimp only
    split_ifs
    · refine (Fed.emit h rfl).onConnected hatt ?_ now
      rw [guest_emit]
      exact (h.stream hc.2).trans hparser
    · exact hnext
  | waiting now =>
    dsimp only
    split_ifs
    · exact hnext
    · exact h

lemma Fed.telnetInput (h : Fed p) (hsound : Sound p) (hfd : 0 ≤ p.modem.fd) (bs : List UInt8)
    (hroom : p.modem.rx.count + (dataOf (decode (parserState p.modem) bs).2).length ≤ modemRingSize) :
    Fed (modemTelnetInput p bs) := by
  have hatt := h.attached hfd
  obtain ⟨t, c, heq, hparser⟩ := telnetBytes_eq (hsound.telnet hfd) bs
  have hstream := h.stream hfd
  have hwhole := h.whole.receive (t := (decode (parserState p.modem) bs).1) h.rx hroom
  unfold modemTelnetInput
  rw [heq]
  exact
    { rx := good_puts h.rx _
      stream := fun _ => by
        rw [guest_emit]
        change (decode (guest p).now.stream bs).1 = _
        rw [hstream, ← hparser]
        rfl
      whole := by
        rw [guest_emit]
        change AllThere _ { (guest p).now with
          stream := (decode (guest p).now.stream bs).1
          data := (guest p).now.data ++ dataOf (decode (guest p).now.stream bs).2 }
        rw [hstream]
        exact hwhole
      past := by rw [guest_emit]; exact h.past
      mine := by rw [guest_emit]; exact h.mine
      idle := fun hno => absurd (hatt.symm.trans hno) (by decide)
      stray := by rw [guest_emit]; exact h.stray }

lemma Fed.escape (h : Fed p) (hk : (face p).Kept) (now : Int) : Fed (pollEscape p now) := by
  unfold pollEscape
  by_cases honline : p.modem.state = .online ∧ 0 < p.modem.plusCount
  swap
  · rw [if_neg honline]
    exact h
  have hatt := h.attached (fd_of_online hk honline.1)
  rw [if_pos honline]
  split_ifs
  · have hcommand : Fed { p with modem := { p.modem with plusCount := 0, state := .commandOnline } } :=
      h.changed rfl id fun _ => rfl
    have hseen := hcommand.emit (e := .escaped now) rfl
    exact hseen.result hatt _
  · obtain ⟨hrx, hfd, hparser⟩ := toSockets_rx p.modem (List.replicate p.modem.plusCount 0x2B)
    exact h.changed hrx (fun hm => hfd ▸ hm) fun _ => hparser
  · exact h

lemma Fed.deliver (h : Fed p) : Fed (pollDeliver p 1) := by
  simp only [pollDeliver]
  split_ifs with hcount
  swap
  · exact h
  have hatt : p.attached = true := by
    by_contra hno
    have hzero := (h.idle (Bool.not_eq_true _ ▸ hno)).2
    omega
  exact
    { rx := h.rx.advance hcount
      stream := fun hfd => by rw [guest_emit]; exact h.stream hfd
      whole := by rw [guest_emit]; exact h.whole.deliver h.rx hcount
      past := by rw [guest_emit]; exact h.past
      mine := by rw [guest_emit]; exact h.mine
      idle := fun hno => absurd (hatt.symm.trans hno) (by decide)
      stray := by
        rw [guest_emit]
        change (if (guest p).mine then (guest p).stray else _) = []
        rw [h.mine, hatt]
        exact h.stray }

/-- **A step keeps what the guest is given in order**, where there is room. -/
theorem Fed.step (h : Fed p) (hk : (face p).Kept) (hsound : Sound p) (a : PortStep)
    (hroom : RoomForGuest p a) : Fed (portStep p a) := by
  cases a with
  | write data host =>
    simp only [portStep]
    split_ifs with hatt
    · exact h.write hatt data host
    · exact h
  | ctrl mcr =>
    simp only [portStep]
    split_ifs with hatt
    · exact h.ctrl hatt mcr
    · exact h
  | busReset =>
    simp only [portStep]
    split_ifs
    · exact h.resetState
    · exact h
  | connect r attempt => exact h.connect hsound r attempt
  | recv r =>
    simp only [portStep]
    split_ifs with hreads
    swap
    · exact h
    have hatt := h.attached hreads.1
    cases r with
    | bytes bs =>
      simp only [recvOne]
      split_ifs
      · exact h.carrierLost hatt
      · exact h.telnetInput hsound hreads.1 bs (hroom hreads)
    | interrupted | wouldBlock => exact h
    | failed => exact h.carrierLost hatt
  | send r =>
    simp only [portStep]
    split_ifs with hsends
    swap
    · exact h
    have hatt := h.attached hsends.1
    cases r with
    | took n =>
      simp only [sendOne]
      split_ifs
      · exact h.carrierLost hatt
      · have hsent : Fed
            { p with modem := { p.modem with
                tx := p.modem.tx.advance modemRingSize ((contig p.modem.tx).take n).length } } :=
          h.changed rfl id fun _ => rfl
        exact hsent.emit (e := .sent ((contig p.modem.tx).take n)) rfl
    | interrupted | wouldBlock => exact h
    | failed => exact h.carrierLost hatt
  | escape now => exact h.escape hk now
  | deliver => exact h.deliver
  | apply mode => exact h.apply mode hroom
  | machineReset mode => exact (h.emit (e := .uartReset) rfl).apply mode hroom

end Steps

/-- **Network to guest.**  Where there was room, what the UART was given is the data of the connections in its
order, with words of the modem in between, and the rest of the data is in the ring; nothing was given to it for
another backend; and each option that was asked for or offered has its one answer. -/
theorem network_to_guest (calls : List PortCall)
    (h : Along portStep (fun p a => Room p a ∧ RoomForGuest p a) modemStateInit (calls.flatMap PortCall.steps)) :
    let p := exec portCall modemStateInit calls
    (∀ e ∈ (guest p).now :: (guest p).past, Fair e) ∧ AllThere p.modem.rx (guest p).now ∧ (guest p).stray = [] ∧
      (∀ c ∈ connections p, Answered c) ∧
      (0 ≤ p.modem.fd → ∃ c rest, connections p = c :: rest ∧ Whole p.modem c) := by
  have hsound : Sound modemStateInit :=
    Outgoing.down ⟨by decide, by decide, by decide⟩ (by decide) (by decide) rfl (by simp [connections, modemStateInit])
  have hincoming : Fed modemStateInit :=
    { rx := ⟨by decide, by decide, by decide⟩
      stream := fun hfd => absurd hfd (by decide)
      whole := ⟨[], rfl, rfl, List.Sublist.refl _⟩
      past := by simp [guest, modemStateInit]
      mine := rfl
      idle := fun _ => ⟨by decide, rfl⟩
      stray := rfl }
  obtain ⟨-, hrun, hguest⟩ : (face (exec portCall modemStateInit calls)).Kept ∧
      Sound (exec portCall modemStateInit calls) ∧ Fed (exec portCall modemStateInit calls) := by
    rw [exec_portCall]
    exact exec_inv (I := fun p => (face p).Kept ∧ Sound p ∧ Fed p)
      (C := fun p a => Room p a ∧ RoomForGuest p a)
      (fun p a hp hroom =>
        ⟨kept_step hp.1 a, hp.2.1.step hp.1 a hroom.1, hp.2.2.step hp.1 hp.2.1 a hroom.2⟩)
      _ modemStateInit ⟨kept_init, hsound, hincoming⟩ h
  refine ⟨?_, hguest.whole, hguest.stray, fun c hc => ⟨answered_one _, (hrun.clean c hc).replies⟩, fun hfd => ?_⟩
  · intro e he
    rcases List.mem_cons.mp he with rfl | he
    · exact hguest.whole.fair
    · exact hguest.past e he
  · obtain ⟨c, rest, items, held, keys, hcs, hflow, -⟩ := hrun.flow hfd
    exact ⟨c, rest, hcs, items, hflow.written, hflow.data_eq, hflow.replies⟩

def pollInto (recvs : List RecvResult) (space : Nat) : PortCall :=
  .poll ⟨.waiting 0, fun _ => ⟨-1, .failed, 0⟩, recvs, [], 0, space⟩

def callMade : List PortCall := .apply .tcpModem :: typeLine ['A', 'T', 'D', 'h'] (hostOf .made)

theorem network_to_guest_halves :
    let p := exec portCall modemStateInit
      (callMade ++ [pollInto [.bytes [0x41, 255]] 1, pollInto [.bytes [255]] 1])
    (guest p).now.data = [0x41, 255] ∧ ∀ e ∈ (guest p).now :: (guest p).past, Fair e :=
  ⟨by decide, (network_to_guest _ (by decide)).1⟩

theorem handed_to_another :
    ¬∀ calls : List PortCall, (guest (exec portCall modemStateInit calls)).stray = [] := by
  intro hall
  have h := hall (callMade ++ [pollInto [.bytes [0x41]] 0, .apply .logToFile, pollInto [] 1])
  exact absurd h (by decide)

end RpcEmu.Serial
