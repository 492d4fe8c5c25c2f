import RpcEmu.Lib.CountedRing
import RpcEmu.Lib.Runs
import RpcEmu.Lib.Telnet

/-!
# The TCP modem

The modem of `peripheral_config.c`, at the end of a serial port: a Hayes command interpreter in front of a
socket, with a ring for each direction and telnet on the way.  The guest's bytes and its control lines come in
through the bus; everything else happens in `serial_modem_poll`.

What the host answers (the clock, the resolver, the socket calls, the room in the UART) is an argument, so that
every schedule is some sequence of calls.  What can be seen from outside goes into a log, and what is to be said
about it is said of the log.

A poll is five things one after the other, of which two are loops; `portCall_eq` takes it to pieces, each of them
one answer of the host.
-/

namespace RpcEmu.Serial

open CountedRing Telnet

def modemRingSize : Nat := 16384
def modemLineMax : Nat := 256
def modemGuardMs : Int := 1000
def modemConnectTimeoutMs : Int := 30000

def teloptBinary : UInt8 := 0
def teloptEcho : UInt8 := 1
def teloptSga : UInt8 := 3

def serialStatCts : UInt8 := 0x10
def serialStatDsr : UInt8 := 0x20
def serialStatDcd : UInt8 := 0x80
def serialCtrlDtr : UInt8 := 0x01

/-- `RC_*`. -/
inductive ResultCode where
  | ok | connect | noCarrier | error
  deriving DecidableEq, Repr

def ResultCode.number : ResultCode → Char
  | ok => '0'
  | connect => '1'
  | noCarrier => '3'
  | error => '4'

def chars (cs : List Char) : List UInt8 := cs.map fun c => UInt8.ofNat c.toNat

def ResultCode.text : ResultCode → List UInt8
  | ok => chars ['O', 'K']
  | connect => chars ['C', 'O', 'N', 'N', 'E', 'C', 'T']
  | noCarrier => chars ['N', 'O', ' ', 'C', 'A', 'R', 'R', 'I', 'E', 'R']
  | error => chars ['E', 'R', 'R', 'O', 'R']

def crlf : List UInt8 := [0x0D, 0x0A]

/-! ## The state -/

/-- `ModemConnState`. -/
inductive ModemConnState where
  | offline | connecting | online | commandOnline
  deriving DecidableEq, Repr

/-- `TelnetParseState`. -/
inductive TelnetParseState where
  | data | iac | opt | sb | sbIac
  deriving DecidableEq, Repr

/-- `PeripheralSerialMode`. -/
inductive PeripheralSerialMode where
  | disabled | logToFile | tcpModem | physicalDevice
  deriving DecidableEq, Repr

abbrev Sockaddr := List UInt8

/-- `ModemState`.  Of `line` only what has been typed, of the address list only what is left of it. -/
structure ModemState where
  state : ModemConnState
  fd : Int
  line : List UInt8
  rx : CountedRing.Ring UInt8
  tx : CountedRing.Ring UInt8
  telnet : Bool
  tstate : TelnetParseState
  toptCmd : UInt8
  plusCount : Nat
  lastTxMs : Int
  lastPlusMs : Int
  echo : Bool
  verbose : Bool
  quiet : Bool
  prevDtr : Bool
  aiNext : List Sockaddr
  connectDeadlineMs : Int

inductive ModemEvent where
  /-- a socket is the modem's -/
  | opened
  /-- its connection has been made, by the host's word -/
  | completed
  /-- it is closed -/
  | closed
  /-- data mode begins -/
  | entered (now : Int)
  /-- the guest writes a byte in data mode -/
  | typed (now : Int) (b : UInt8)
  /-- data mode ends, for the guest has asked for it -/
  | escaped (now : Int)
  /-- bytes go out on the socket -/
  | sent (bs : List UInt8)
  /-- bytes come in on it -/
  | received (bs : List UInt8)
  /-- the modem has something to say to the guest -/
  | own (bs : List UInt8)
  /-- a result code is reported -/
  | result (code : ResultCode)
  /-- a byte is handed to the UART -/
  | uart (b : UInt8)
  /-- `superio_serial_update_msr` -/
  | msr (status : UInt8)
  /-- the UART is reset, and its status with it -/
  | uartReset
  /-- the buffers are emptied -/
  | cleared
  /-- the port is given a backend -/
  | backend (mode : PeripheralSerialMode)
  deriving DecidableEq, Repr

structure SerialPort where
  modem : ModemState
  attached : Bool
  log : List ModemEvent

def SerialPort.emit (p : SerialPort) (e : ModemEvent) : SerialPort := { p with log := p.log ++ [e] }

/-- `modem_state_init`, of memory that is zero. -/
def modemStateInit : SerialPort where
  modem :=
    { state := .offline, fd := -1, line := [], rx := ⟨fun _ => 0, 0, 0, 0⟩, tx := ⟨fun _ => 0, 0, 0, 0⟩,
      telnet := false, tstate := .data, toptCmd := 0, plusCount := 0, lastTxMs := 0, lastPlusMs := 0, echo := false,
      verbose := false, quiet := false, prevDtr := false, aiNext := [], connectDeadlineMs := 0 }
  attached := false
  log := []

/-! ## The rings -/

/-- `modem_rx_put` and `modem_tx_put`, of a ring. -/
def ringPut (r : CountedRing.Ring UInt8) (b : UInt8) : CountedRing.Ring UInt8 :=
  if modemRingSize ≤ r.count then r else r.push modemRingSize b

def modemRxPut (m : ModemState) (b : UInt8) : ModemState := { m with rx := ringPut m.rx b }

def modemTxPut (m : ModemState) (b : UInt8) : ModemState := { m with tx := ringPut m.tx b }

/-- `modem_to_guest_str`. -/
def modemToGuestStr (p : SerialPort) (s : List UInt8) : SerialPort :=
  { p with modem := s.foldl modemRxPut p.modem }.emit (.own s)

/-- `modem_to_socket`. -/
def modemToSocket (m : ModemState) (b : UInt8) : ModemState :=
  let m' := modemTxPut m b
  if m.telnet ∧ b = telIac then modemTxPut m' telIac else m'

/-- `modem_send_telnet`. -/
def modemSendTelnet (m : ModemState) (cmd opt : UInt8) : ModemState :=
  modemTxPut (modemTxPut (modemTxPut m telIac) cmd) opt

/-- `modem_result`. -/
def modemResult (p : SerialPort) (code : ResultCode) : SerialPort :=
  if p.modem.quiet then p
  else if p.modem.verbose then (modemToGuestStr p (crlf ++ code.text ++ crlf)).emit (.result code)
  else (modemToGuestStr p (chars [code.number, '\r'])).emit (.result code)

/-! ## The connection -/

/-- `modem_status_bits`. -/
def modemStatusBits (m : ModemState) : UInt8 :=
  if 0 ≤ m.fd then serialStatCts ||| serialStatDsr ||| serialStatDcd else serialStatCts ||| serialStatDsr

/-- `superio_serial_update_msr`, as it is called from here. -/
def updateMsr (p : SerialPort) : SerialPort := p.emit (.msr (modemStatusBits p.modem))

/-- `closesocket` of the modem's own. -/
def closesocket (p : SerialPort) : SerialPort := { p with modem := { p.modem with fd := -1 } }.emit .closed

/-- `modem_close`. -/
def modemClose (p : SerialPort) : SerialPort :=
  let p := if 0 ≤ p.modem.fd then closesocket p else p
  { p with modem := { p.modem with aiNext := [], state := .offline, plusCount := 0, tstate := .data } }

/-- `modem_reset_state`. -/
def modemResetState (p : SerialPort) : SerialPort :=
  let p := modemClose p
  { p with modem :=
    { p.modem with
      line := [], rx := p.modem.rx.clear, tx := p.modem.tx.clear, tstate := .data, plusCount := 0, echo := true,
      verbose := true, quiet := false, prevDtr := false, telnet := true } }.emit .cleared

/-- `modem_on_connected`. -/
def modemOnConnected (p : SerialPort) (now : Int) : SerialPort :=
  let p :=
    { p with modem :=
      { p.modem with aiNext := [], state := .online, tstate := .data, plusCount := 0, lastTxMs := now } }.emit
      (.entered now)
  modemResult (updateMsr p) .connect

/-- What `connect` says of a socket that does not wait: it is made, it is on its way, or it is not. -/
inductive ConnectOutcome where
  | made | pending | failed
  deriving DecidableEq, Repr

structure Attempt where
  fd : Int
  outcome : ConnectOutcome
  now : Int

/-- `modem_try_next_address`.  The attempts are by what is left of the list. -/
def modemTryNextAddress (attempt : List Sockaddr → Attempt) (p : SerialPort) : List Sockaddr → SerialPort
  | [] => modemResult { p with modem := { p.modem with aiNext := [], state := .offline } } .noCarrier
  | ai :: rest =>
    let a := attempt (ai :: rest)
    if a.fd < 0 then modemTryNextAddress attempt p rest
    else
      match a.outcome with
      | .made =>
        modemOnConnected (({ p with modem := { p.modem with fd := a.fd, aiNext := rest } }.emit .opened).emit .completed)
          a.now
      | .pending =>
        { p with modem :=
          { p.modem with
            fd := a.fd, aiNext := rest, state := .connecting,
            connectDeadlineMs := a.now + modemConnectTimeoutMs } }.emit .opened
      | .failed => modemTryNextAddress attempt p rest

structure WriteHost where
  now : Int
  /-- `getaddrinfo`, empty if there is no such host -/
  resolve : List UInt8 → List UInt8 → List Sockaddr
  attempt : List Sockaddr → Attempt

/-! ## The command line -/

def isBlank (b : UInt8) : Bool := b = 0x20 || b = 0x09

/-- `toupper`. -/
def toUpper (b : UInt8) : UInt8 := if 0x61 ≤ b ∧ b ≤ 0x7A then b - 0x20 else b

def isDialModifier (b : UInt8) : Bool :=
  isBlank b || toUpper b = 0x54 || toUpper b = 0x50 || toUpper b = 0x57 || b = 0x28 || b = 0x29 || b = 0x2D || b = 0x2C

def dialTarget (number : List UInt8) : List UInt8 × List UInt8 :=
  let number := number.dropWhile isDialModifier
  let host := (number.takeWhile fun b => !(b = 0x3A || isBlank b)).take 255
  let service : List UInt8 :=
    match number.drop host.length with
    | b :: rest =>
      if b = 0x3A ∨ isBlank b then ((rest.dropWhile isBlank).takeWhile fun b => !isBlank b).take 31 else []
    | [] => []
  (host, if service = [] then chars ['2', '3'] else service)

/-- `modem_dial`. -/
def modemDial (p : SerialPort) (number : List UInt8) (host : WriteHost) : SerialPort :=
  let target := dialTarget number
  if target.1 = [] then modemResult p .error
  else
    let p := modemClose p
    match host.resolve target.1 target.2 with
    | [] => modemResult p .noCarrier
    | res => modemTryNextAddress host.attempt { p with modem := { p.modem with aiNext := res, telnet := true } } res

inductive Command where
  | blank
  | invalid
  | bare
  | dial (number : List UInt8)
  | hangUp
  | returnOnline
  | configure (s : List UInt8)
  deriving DecidableEq, Repr

def afterD : List UInt8 → Option (List UInt8)
  | [] => none
  | b :: rest => if toUpper b = 0x44 then some rest else afterD rest

/-- The words of `modem_process_command`, up to the first zero byte. -/
def parseCommand (line : List UInt8) : Command :=
  let line := (line.reverse.dropWhile fun b => b = 0x0D || b = 0x0A).reverse
  let s := (line.takeWhile fun b => b ≠ 0).dropWhile isBlank
  match s with
  | [] => .blank
  | [_] => .invalid
  | a :: t :: s =>
    if ¬((a = 0x41 ∨ a = 0x61) ∧ (t = 0x54 ∨ t = 0x74)) then .invalid
    else
      match s with
      | [] => .bare
      | first :: _ =>
        match afterD s with
        | some number => .dial number
        | none =>
          if toUpper first = 0x48 then .hangUp
          else if toUpper first = 0x4F then .returnOnline
          else .configure s

def modemToggles (m : ModemState) : List UInt8 → ModemState
  | [] => m
  | p :: rest =>
    let n := rest.headD 0
    let m :=
      if toUpper p = 0x45 then { m with echo := n ≠ 0x30 }
      else if toUpper p = 0x56 then { m with verbose := n ≠ 0x30 }
      else if toUpper p = 0x51 then { m with quiet := n = 0x31 }
      else m
    modemToggles m rest

def modemIdentity : List UInt8 :=
  crlf ++ chars ['R', 'P', 'C', 'E', 'm', 'u', ' ', 'T', 'C', 'P', ' ', 'm', 'o', 'd', 'e', 'm'] ++ crlf

/-- `modem_process_command`. -/
def modemProcessCommand (p : SerialPort) (host : WriteHost) : SerialPort :=
  match parseCommand p.modem.line with
  | .blank => p
  | .invalid => modemResult p .error
  | .bare => modemResult p .ok
  | .dial number => modemDial p number host
  | .hangUp =>
    if 0 ≤ p.modem.fd then modemResult (updateMsr (modemClose p)) .noCarrier else modemResult p .ok
  | .returnOnline =>
    if 0 ≤ p.modem.fd then
      modemResult ({ p with modem := { p.modem with state := .online, lastTxMs := host.now } }.emit (.entered host.now))
        .connect
    else modemResult p .noCarrier
  | .configure s =>
    let p := { p with modem := modemToggles p.modem s }
    let p := if toUpper (s.headD 0) = 0x49 then modemToGuestStr p modemIdentity else p
    modemResult p .ok

/-! ## What the guest does -/

/-- A `+` that may belong to an escape is kept. -/
def Keeps (m : ModemState) (b : UInt8) (now : Int) : Prop :=
  b = 0x2B ∧ m.plusCount < 3 ∧ (m.plusCount = 0 → modemGuardMs ≤ now - m.lastTxMs)

instance (m : ModemState) (b : UInt8) (now : Int) : Decidable (Keeps m b now) := inferInstanceAs (Decidable (_ ∧ _))

def flushPlus (m : ModemState) : ModemState :=
  { (List.replicate m.plusCount 0x2B).foldl modemToSocket m with plusCount := 0 }

/-- `modem_data_tx_byte`. -/
def modemDataTxByte (m : ModemState) (b : UInt8) (now : Int) : ModemState :=
  if Keeps m b now then { m with plusCount := m.plusCount + 1, lastPlusMs := now }
  else { modemToSocket (flushPlus m) b with lastTxMs := now }

/-- `modem_on_write`. -/
def modemOnWrite (p : SerialPort) (data : UInt8) (host : WriteHost) : SerialPort :=
  if p.modem.state = .online then
    { p with modem := modemDataTxByte p.modem data host.now }.emit (.typed host.now data)
  else
    let p := if p.modem.echo then modemToGuestStr p (if data = 0x0D then crlf else [data]) else p
    if data = 0x0D ∨ data = 0x0A then
      if p.modem.line = [] then p
      else
        let p := modemProcessCommand p host
        { p with modem := { p.modem with line := [] } }
    else if data = 0x08 ∨ data = 0x7F then { p with modem := { p.modem with line := p.modem.line.dropLast } }
    else if p.modem.line.length + 1 < modemLineMax then
      { p with modem := { p.modem with line := p.modem.line ++ [data] } }
    else p

/-- `modem_on_ctrl`. -/
def modemOnCtrl (p : SerialPort) (ctrl : UInt8) : SerialPort :=
  let dtr : Bool := ctrl &&& serialCtrlDtr ≠ 0
  let p :=
    if ¬dtr ∧ p.modem.prevDtr ∧ 0 ≤ p.modem.fd then modemResult (updateMsr (modemClose p)) .noCarrier else p
  { p with modem := { p.modem with prevDtr := dtr } }

/-- `serial_apply_port`: the modem's state is set up again only when the modem is what is wanted. -/
def serialApplyPort (p : SerialPort) (mode : PeripheralSerialMode) : SerialPort :=
  let p := ({ modemClose p with attached := false }).emit (.backend mode)
  match mode with
  | .tcpModem => { modemResetState p with attached := true }
  | .disabled | .logToFile | .physicalDevice => p

/-! ## What comes from the network -/

def telnetAnswer (cmd opt : UInt8) : Option (UInt8 × UInt8) :=
  if cmd = telDo then some (if opt = teloptBinary ∨ opt = teloptSga then telWill else telWont, opt)
  else if cmd = telWill then
    some (if opt = teloptBinary ∨ opt = teloptSga ∨ opt = teloptEcho then telDo else telDont, opt)
  else none

/-- A byte of `modem_telnet_input`. -/
def modemTelnetByte (m : ModemState) (b : UInt8) : ModemState :=
  if ¬m.telnet then modemRxPut m b
  else
    match m.tstate with
    | .data => if b = telIac then { m with tstate := .iac } else modemRxPut m b
    | .iac =>
      if b = telIac then { modemRxPut m telIac with tstate := .data }
      else if b = telWill ∨ b = telWont ∨ b = telDo ∨ b = telDont then { m with toptCmd := b, tstate := .opt }
      else if b = telSb then { m with tstate := .sb }
      else { m with tstate := .data }
    | .opt =>
      let m :=
        match telnetAnswer m.toptCmd b with
        | some (cmd, opt) => modemSendTelnet m cmd opt
        | none => m
      { m with tstate := .data }
    | .sb => if b = telIac then { m with tstate := .sbIac } else m
    | .sbIac => { m with tstate := if b = telSe then .data else .sb }

/-- `modem_telnet_input`. -/
def modemTelnetInput (p : SerialPort) (data : List UInt8) : SerialPort :=
  { p with modem := data.foldl modemTelnetByte p.modem }.emit (.received data)

/-- `modem_carrier_lost`. -/
def modemCarrierLost (p : SerialPort) : SerialPort := modemResult (updateMsr (modemClose p)) .noCarrier

/-! ## The poll -/

/-- What `poll` and `getsockopt` say of a connection on its way. -/
inductive Readiness where
  | ready (err : Int) (now : Int)
  | waiting (now : Int)

/-- What `recv` says: some bytes, none if the other end has closed, or an error. -/
inductive RecvResult where
  | bytes (bs : List UInt8)
  | interrupted
  | wouldBlock
  | failed

/-- What `send` says: how many bytes it took, or an error. -/
inductive SendResult where
  | took (n : Nat)
  | interrupted
  | wouldBlock
  | failed

structure PollHost where
  readiness : Readiness
  attempt : List Sockaddr → Attempt
  recvs : List RecvResult
  sends : List SendResult
  now : Int
  space : Nat

def pollConnect (p : SerialPort) (r : Readiness) (attempt : List Sockaddr → Attempt) : SerialPort :=
  if p.modem.state = .connecting ∧ 0 ≤ p.modem.fd then
    match r with
    | .ready err now =>
      if err = 0 then modemOnConnected (p.emit .completed) now
      else
        let p := closesocket p
        modemTryNextAddress attempt p p.modem.aiNext
    | .waiting now =>
      if p.modem.connectDeadlineMs < now then
        let p := closesocket p
        modemTryNextAddress attempt p p.modem.aiNext
      else p
  else p

/-- The modem reads from its connection. -/
def Reads (m : ModemState) : Prop := 0 ≤ m.fd ∧ (m.state = .online ∨ m.state = .commandOnline)

instance (m : ModemState) : Decidable (Reads m) := inferInstanceAs (Decidable (_ ∧ _))

def recvLoop (p : SerialPort) : List RecvResult → SerialPort
  | [] => p
  | .bytes bs :: rest =>
    if bs = [] then modemCarrierLost p
    else
      let p := modemTelnetInput p bs
      if bs.length < 2048 then p else recvLoop p rest
  | .interrupted :: rest => recvLoop p rest
  | .wouldBlock :: _ => p
  | .failed :: _ => modemCarrierLost p

def pollRecv (p : SerialPort) (recvs : List RecvResult) : SerialPort := if Reads p.modem then recvLoop p recvs else p

/-- The bytes that are offered to `send`: those up to the end of the ring's memory. -/
def contig (r : CountedRing.Ring UInt8) : List UInt8 :=
  (List.range (min (modemRingSize - r.tail) r.count)).map fun k => r.slots (r.tail + k)

/-- What `send` took is gone. -/
def sendTook (p : SerialPort) (n : Nat) : SerialPort :=
  let bs := (contig p.modem.tx).take n
  { p with modem := { p.modem with tx := p.modem.tx.advance modemRingSize bs.length } }.emit (.sent bs)

def sendLoop (p : SerialPort) : List SendResult → SerialPort
  | [] => p
  | r :: rest =>
    if 0 ≤ p.modem.fd ∧ 0 < p.modem.tx.count then
      match r with
      | .took n => if n = 0 then modemCarrierLost p else sendLoop (sendTook p n) rest
      | .interrupted => sendLoop p rest
      | .wouldBlock => p
      | .failed => modemCarrierLost p
    else p

def pollEscape (p : SerialPort) (now : Int) : SerialPort :=
  if p.modem.state = .online ∧ 0 < p.modem.plusCount then
    if p.modem.plusCount = 3 ∧ modemGuardMs ≤ now - p.modem.lastPlusMs then
      modemResult
        ({ p with modem := { p.modem with plusCount := 0, state := .commandOnline } }.emit (.escaped now)) .ok
    else if p.modem.plusCount < 3 ∧ modemGuardMs ≤ now - p.modem.lastPlusMs then
      { p with modem := { flushPlus p.modem with lastTxMs := now } }
    else p
  else p

def pollDeliver (p : SerialPort) : Nat → SerialPort
  | 0 => p
  | space + 1 =>
    if 0 < p.modem.rx.count then
      pollDeliver
        ({ p with modem := { p.modem with rx := p.modem.rx.advance modemRingSize 1 } }.emit
          (.uart (p.modem.rx.slots p.modem.rx.tail))) space
    else p

/-- `serial_modem_poll`, of one port. -/
def serialModemPoll (p : SerialPort) (host : PollHost) : SerialPort :=
  let p := pollConnect p host.readiness host.attempt
  let p := pollRecv p host.recvs
  let p := sendLoop p host.sends
  let p := pollEscape p host.now
  pollDeliver p host.space

/-! ## Calls -/

inductive PortCall where
  /-- the guest writes the THR -/
  | write (data : UInt8) (host : WriteHost)
  /-- the guest writes the MCR -/
  | ctrl (mcr : UInt8)
  /-- `serial_bus_reset` -/
  | busReset
  | poll (host : PollHost)
  /-- the user gives the port a backend -/
  | apply (mode : PeripheralSerialMode)
  /-- the machine is reset: the UART, and then the backend is set up again -/
  | machineReset (mode : PeripheralSerialMode)

def portCall (p : SerialPort) : PortCall → SerialPort
  | .write data host => if p.attached then modemOnWrite p data host else p
  | .ctrl mcr => if p.attached then modemOnCtrl p mcr else p
  | .busReset => if p.attached then modemResetState p else p
  | .poll host => serialModemPoll p host
  | .apply mode => serialApplyPort p mode
  | .machineReset mode => serialApplyPort (p.emit .uartReset) mode

/-! ## Calls in pieces -/

inductive PortStep where
  | write (data : UInt8) (host : WriteHost)
  | ctrl (mcr : UInt8)
  | busReset
  | connect (r : Readiness) (attempt : List Sockaddr → Attempt)
  | recv (r : RecvResult)
  | send (r : SendResult)
  | escape (now : Int)
  | deliver
  | apply (mode : PeripheralSerialMode)
  | machineReset (mode : PeripheralSerialMode)

def recvOne (p : SerialPort) : RecvResult → SerialPort
  | .bytes bs => if bs = [] then modemCarrierLost p else modemTelnetInput p bs
  | .interrupted | .wouldBlock => p
  | .failed => modemCarrierLost p

def sendOne (p : SerialPort) : SendResult → SerialPort
  | .took n => if n = 0 then modemCarrierLost p else sendTook p n
  | .interrupted | .wouldBlock => p
  | .failed => modemCarrierLost p

def portStep (p : SerialPort) : PortStep → SerialPort
  | .write data host => if p.attached then modemOnWrite p data host else p
  | .ctrl mcr => if p.attached then modemOnCtrl p mcr else p
  | .busReset => if p.attached then modemResetState p else p
  | .connect r attempt => pollConnect p r attempt
  | .recv r => if Reads p.modem then recvOne p r else p
  | .send r => if 0 ≤ p.modem.fd ∧ 0 < p.modem.tx.count then sendOne p r else p
  | .escape now => pollEscape p now
  | .deliver => pollDeliver p 1
  | .apply mode => serialApplyPort p mode
  | .machineReset mode => serialApplyPort (p.emit .uartReset) mode

/-- The answers of `recv` that a poll comes to. -/
def recvsUsed : List RecvResult → List RecvResult
  | [] => []
  | .bytes bs :: rest => if bs.length < 2048 then [.bytes bs] else .bytes bs :: recvsUsed rest
  | .interrupted :: rest => recvsUsed rest
  | .wouldBlock :: _ => []
  | .failed :: _ => [.failed]

/-- The answers of `send` that it comes to, if there is as much to send. -/
def sendsUsed : List SendResult → List SendResult
  | [] => []
  | .took n :: rest => if n = 0 then [.took 0] else .took n :: sendsUsed rest
  | .interrupted :: rest => sendsUsed rest
  | .wouldBlock :: _ => []
  | .failed :: _ => [.failed]

def PortCall.steps : PortCall → List PortStep
  | .write data host => [.write data host]
  | .ctrl mcr => [.ctrl mcr]
  | .busReset => [.busReset]
  | .poll host =>
    .connect host.readiness host.attempt :: (recvsUsed host.recvs).map .recv ++ (sendsUsed host.sends).map .send ++
      .escape host.now :: List.replicate host.space .deliver
  | .apply mode => [.apply mode]
  | .machineReset mode => [.machineReset mode]

/-! ## What the rings leave alone -/

section Frames

variable (m : ModemState) (p : SerialPort)

/-- Only the receive ring differs. -/
structure SameButRx (m m' : ModemState) : Prop where
  eq : m' = { m with rx := m'.rx }

/-- Only the rings and the TELNET parser differ. -/
structure SameButTelnet (m m' : ModemState) : Prop where
  eq : m' = { m with rx := m'.rx, tx := m'.tx, tstate := m'.tstate, toptCmd := m'.toptCmd }

lemma SameButTelnet.trans {a b c : ModemState} (hab : SameButTelnet a b) (hbc : SameButTelnet b c) :
    SameButTelnet a c := by
  constructor
  rw [hbc.eq, hab.eq]

lemma modemTelnetByte_frame (b : UInt8) : SameButTelnet m (modemTelnetByte m b) := by
  constructor
  by_cases ht : ¬m.telnet
  · rw [modemTelnetByte, if_pos ht]
    rfl
  rw [modemTelnetByte, if_neg ht]
  cases m.tstate with
  | data => dsimp only; split_ifs <;> rfl
  | iac => dsimp only; split_ifs <;> rfl
  | opt => cases telnetAnswer m.toptCmd b <;> rfl
  | sb => dsimp only; split_ifs <;> rfl
  | sbIac => rfl

lemma modemTelnetBytes_frame (bs : List UInt8) : SameButTelnet m (bs.foldl modemTelnetByte m) := by
  induction bs generalizing m with
  | nil => exact ⟨rfl⟩
  | cons b bs ih => exact (modemTelnetByte_frame m b).trans (ih _)

lemma modemRxPuts_frame (bs : List UInt8) : SameButRx m (bs.foldl modemRxPut m) := by
  induction bs generalizing m with
  | nil => exact ⟨rfl⟩
  | cons b bs ih =>
    constructor
    rw [List.foldl_cons, (ih _).eq]
    rfl

variable {m p}

lemma rxPuts_eq {α : Type} {bs : List UInt8} (f : ModemState → α) (hf : ∀ rx, f { m with rx := rx } = f m) :
    f (bs.foldl modemRxPut m) = f m := by
  rw [(modemRxPuts_frame m bs).eq]
  exact hf _

end Frames

/-! ## A poll in pieces -/

section Pieces

open Runs

lemma reads_telnetInput {p : SerialPort} {bs : List UInt8} :
    Reads (modemTelnetInput p bs).modem ↔ Reads p.modem := by
  have hframe := (modemTelnetBytes_frame p.modem bs).eq
  change Reads (bs.foldl modemTelnetByte p.modem) ↔ _
  rw [hframe]
  rfl

lemma recvLoop_eq (rs : List RecvResult) (p : SerialPort) (h : Reads p.modem) :
    recvLoop p rs = exec portStep p ((recvsUsed rs).map .recv) := by
  induction rs generalizing p with
  | nil => rfl
  | cons r rs ih =>
    have hone : portStep p (.recv r) = recvOne p r := if_pos h
    cases r with
    | bytes bs =>
      by_cases hnil : bs = []
      · subst hnil
        exact hone.symm
      have hinput : recvOne p (.bytes bs) = modemTelnetInput p bs := if_neg hnil
      by_cases hlen : bs.length < 2048
      · simp [recvLoop, recvsUsed, hnil, hlen, hone, hinput]
      · simp only [recvLoop, recvsUsed, hnil, hlen, if_false, List.map_cons, exec_cons, hone, hinput]
        exact ih _ (reads_telnetInput.mpr h)
    | interrupted => exact ih p h
    | wouldBlock => rfl
    | failed => exact hone.symm

lemma exec_send_idle (rs : List SendResult) {p : SerialPort} (h : ¬(0 ≤ p.modem.fd ∧ 0 < p.modem.tx.count)) :
    exec portStep p (rs.map .send) = p := by
  induction rs with
  | nil => rfl
  | cons r rs ih =>
    have hone : portStep p (.send r) = p := if_neg h
    rw [List.map_cons, exec_cons, hone, ih]

lemma sendLoop_eq (rs : List SendResult) (p : SerialPort) :
    sendLoop p rs = exec portStep p ((sendsUsed rs).map .send) := by
  induction rs generalizing p with
  | nil => rfl
  | cons r rs ih =>
    by_cases h : 0 ≤ p.modem.fd ∧ 0 < p.modem.tx.count
    · have hone : portStep p (.send r) = sendOne p r := if_pos h
      cases r with
      | took n =>
        by_cases hn : n = 0
        · subst hn
          simp only [sendLoop, h, and_self, if_true]
          exact hone.symm
        · have htook : sendOne p (.took n) = sendTook p n := if_neg hn
          simp only [sendLoop, h, and_self, if_true, sendsUsed, hn, if_false, List.map_cons, exec_cons, hone, htook]
          exact ih _
      | interrupted =>
        simp only [sendLoop, h, and_self, if_true]
        exact ih p
      | wouldBlock => simp [sendLoop, sendsUsed, h]
      | failed =>
        simp only [sendLoop, h, and_self, if_true]
        exact hone.symm
    · simp only [exec_send_idle _ h, sendLoop, if_neg h]

lemma pollDeliver_eq (n : Nat) (p : SerialPort) :
    pollDeliver p n = exec portStep p (List.replicate n .deliver) := by
  induction n generalizing p with
  | zero => rfl
  | succ n ih =>
    rw [List.replicate_succ, exec_cons, ← ih]
    by_cases h : 0 < p.modem.rx.count
    · simp [portStep, pollDeliver, h]
    · cases n <;> simp [portStep, pollDeliver, h]

theorem portCall_eq (p : SerialPort) (c : PortCall) : portCall p c = exec portStep p c.steps := by
  cases c with
  | poll host =>
    have hrecv (q : SerialPort) :
        pollRecv q host.recvs = exec portStep q ((recvsUsed host.recvs).map .recv) := by
      unfold pollRecv
      split_ifs with h
      · exact recvLoop_eq _ q h
      · generalize recvsUsed host.recvs = rs
        induction rs with
        | nil => rfl
        | cons r rs ih =>
          have hone : portStep q (.recv r) = q := if_neg h
          rw [List.map_cons, exec_cons, hone, ← ih]
    simp only [portCall, serialModemPoll, PortCall.steps, List.cons_append, exec_cons, exec_append, hrecv,
      sendLoop_eq, pollDeliver_eq]
    rfl
  | write data host => rfl
  | ctrl mcr => rfl
  | busReset => rfl
  | apply mode => rfl
  | machineReset mode => rfl

/-- **Some calls are their pieces.** -/
theorem exec_portCall (p : SerialPort) (calls : List PortCall) :
    exec portCall p calls = exec portStep p (calls.flatMap PortCall.steps) := by
  induction calls generalizing p with
  | nil => rfl
  | cons c calls ih => rw [exec_cons, List.flatMap_cons, exec_append, ih, portCall_eq]

end Pieces

end RpcEmu.Serial
