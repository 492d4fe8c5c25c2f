import RpcEmu.Hostcmd.OutRing
import RpcEmu.Lib.Runs

/-!
# The host command gateway

`hostcmd.c`: one command at a time is handed to a module in the guest, for a client on a socket or for the
emulator itself.  The command, queued or with the guest, is in the slot `cmd_*`, and whose it is has to be read off
five flags.

* `State` is `HostCmdState`.  Connections and internal submissions are numbered, in place of a descriptor and of a
  callback with its argument, so that one can be told from the next.
* `State.log` is no part of the source: it takes down what goes out in the course of one step.

Setting up and closing the listener are not here, nor is the operation that reports the display.
-/

namespace RpcEmu.Hostcmd

/-! ## The state -/

inductive Party
  | client (connection : ℕ)
  | internal (submission : ℕ)
  deriving DecidableEq, Repr

inductive Happening
  /-- A client has connected. -/
  | connected (c : ℕ)
  /-- The connection has been closed. -/
  | gone (c : ℕ)
  /-- A command is in the slot now. -/
  | accepted (p : Party)
  /-- The command has been stored in the guest's buffer. -/
  | delivered (bufptr : UInt32) (bytes : List UInt8)
  /-- A frame has been put into the ring. -/
  | frame (c : ℕ) (f : Frame)
  /-- A frame has been dropped, there being no room for it. -/
  | noRoom (c : ℕ) (f : Frame)
  /-- The socket has taken these bytes. -/
  | sent (c : ℕ) (bytes : List UInt8)
  /-- The callback of a submission has been called. -/
  | finished (n : ℕ) (rc : UInt32) (output : List UInt8)
  /-- The caller has given up the internal command. -/
  | abandoned
  deriving DecidableEq, Repr

/-- `HostCmdState`, with what is needed to number the parties and the log of the step. -/
structure State where
  initialised : Bool
  listening : Bool
  clientFd : Option ℕ
  inBuf : List UInt8
  inOverflow : Bool
  cmdPending : Bool
  cmdInflight : Bool
  cmdLine : List UInt8
  ring : OutRing
  guestRegistered : Bool
  cmdQueuedMs : Int
  guestSeenMs : Int
  orphaned : ℕ
  internalActive : Bool
  internalDone : Option ℕ
  internalOut : List UInt8
  internalOutCap : ℕ
  internalOutFailed : Bool
  /-- `since_listen_check` -/
  sinceListenCheck : UInt32
  connections : ℕ
  submissions : ℕ
  log : List Happening

/-- `hostcmd_init`. -/
def init (listening : Bool) : State :=
  { initialised := true, listening := listening, clientFd := none, inBuf := [], inOverflow := false,
    cmdPending := false, cmdInflight := false, cmdLine := [], ring := ⟨fun _ => 0, 0, 0⟩,
    guestRegistered := false, cmdQueuedMs := 0, guestSeenMs := 0, orphaned := 0, internalActive := false,
    internalDone := none, internalOut := [], internalOutCap := 0, internalOutFailed := false,
    sinceListenCheck := 0, connections := 0, submissions := 0, log := [] }

def State.note (s : State) (h : Happening) : State := { s with log := s.log ++ [h] }

def text (s : String) : List UInt8 := s.toList.map fun c => UInt8.ofNat c.toNat

variable (s : State)

/-! ## The output of an internal command -/

/-- `HC_INTERNAL_OUT_MAX`. -/
def internalOutMax : ℕ := 1024 * 1024

/-- `while (want < need) want *= 2`, for a `want` that is not zero. -/
def doubled (need : ℕ) : ℕ → ℕ → ℕ
  | 0, want => want
  | fuel + 1, want => if want < need then doubled need fuel (want * 2) else want

/-- `hc_internal_capture`; `alloc` is whether `realloc` gives so many bytes. -/
def internalCapture (alloc : ℕ → Bool) (data : List UInt8) : State :=
  if !s.internalActive || s.internalOutFailed || data.isEmpty then s
  else
    let data :=
      if internalOutMax < s.internalOut.length + data.length then
        data.take (internalOutMax - s.internalOut.length)
      else data
    if data.isEmpty then s
    else
      let need := s.internalOut.length + data.length
      if s.internalOutCap < need then
        let want := doubled need need (if s.internalOutCap = 0 then 4096 else s.internalOutCap * 2)
        if alloc want then { s with internalOut := s.internalOut ++ data, internalOutCap := want }
        else { s with internalOutFailed := true }
      else { s with internalOut := s.internalOut ++ data }

def noInternal : State :=
  { s with internalActive := false, internalDone := none, internalOut := [], internalOutCap := 0,
           internalOutFailed := false }

/-- `hc_internal_finish`. -/
def internalFinish (rc : UInt32) : State :=
  match s.internalDone with
  | none => noInternal s
  | some n => (noInternal s).note (.finished n rc s.internalOut)

/-! ## Frames for the client -/

def putFrame (c : ℕ) (f : Frame) : State :=
  { s with ring := (s.ring.write (header f.type (UInt32.ofNat f.payload.length))).write f.payload }.note (.frame c f)

/-- `hc_push_frame`. -/
def pushFrame (f : Frame) : State :=
  match s.clientFd with
  | none => s
  | some c =>
    if s.ring.free.toNat < f.payload.length + 5 then s.note (.noRoom c f)
    else putFrame s c f

/-- `hc_notice`. -/
def notice (msg : String) : State := pushFrame s ⟨.notice, text msg⟩

/-! ## What the guest asks -/

structure Regs where
  r0 : UInt32
  r1 : UInt32
  deriving DecidableEq, Repr

/-- `HC_OP_REGISTER`. -/
def swiRegister (now : Int) : Regs × State :=
  (⟨0xffffffff, if s.clientFd.isSome then 1 else 0⟩, { s with guestRegistered := true, guestSeenMs := now })

/-- `HC_OP_POLL`. -/
def swiPoll (bufptr bufsize : UInt32) (now : Int) : Regs × State :=
  let s := { s with guestRegistered := true, guestSeenMs := now }
  let len := UInt32.ofNat s.cmdLine.length
  if s.cmdPending && !s.cmdInflight then
    if bufsize.toNat < s.cmdLine.length + 1 then (⟨2, len⟩, s)
    else
      let t := { s with cmdPending := false, cmdInflight := true }
      (⟨1, len⟩, t.note (.delivered bufptr (s.cmdLine ++ [0])))
  else (⟨0, bufsize⟩, s)

def loadBytes (load : UInt32 → UInt8) (ptr : UInt32) (len : ℕ) : List UInt8 :=
  (List.range len).map fun i => load (ptr + UInt32.ofNat i)

/-- How much of `len` bytes the ring has room for, with a header. -/
def acceptable (len : UInt32) : ℕ :=
  if 5 < s.ring.free.toNat then min len.toNat (s.ring.free.toNat - 5) else 0

/-- `HC_OP_OUTPUT`. -/
def swiOutput (load : UInt32 → UInt8) (alloc : ℕ → Bool) (ptr len : UInt32) : Regs × State :=
  if s.internalActive then
    (⟨len, len⟩, (loadBytes load ptr len.toNat).foldl (fun s byte => internalCapture s alloc [byte]) s)
  else
    match s.clientFd with
    | none => (⟨len, len⟩, s)
    | some c =>
      if !s.cmdInflight && 0 < s.orphaned then (⟨len, len⟩, s)
      else
        let accept := acceptable s len
        if 0 < accept then (⟨UInt32.ofNat accept, len⟩, putFrame s c ⟨.output, loadBytes load ptr accept⟩)
        else (⟨0, len⟩, s)

/-- `HC_STATUS_END`. -/
def statusEnd : UInt32 := 1

/-- `HC_OP_STATUS`. -/
def swiStatus (marker rc : UInt32) : Regs × State :=
  if marker = statusEnd ∧ s.cmdInflight = false ∧ 0 < s.orphaned then
    (⟨0, rc⟩, { s with orphaned := s.orphaned - 1 })
  else if marker = statusEnd ∧ s.internalActive = true then
    (⟨0, rc⟩, internalFinish { s with cmdInflight := false } rc)
  else if marker = statusEnd then
    (⟨0, rc⟩, { pushFrame s ⟨.done, bigEndian rc⟩ with cmdInflight := false })
  else (⟨0, rc⟩, s)

/-! ## The client's connection -/

def closeClient : State :=
  let t := { s with clientFd := none, inBuf := [], inOverflow := false, ring := s.ring.clear, cmdPending := false }
  match s.clientFd with
  | none => t
  | some c => t.note (.gone c)

/-- `hc_drop_client`. -/
def dropClient : State :=
  let t := closeClient s
  if t.cmdInflight && !t.internalActive then { t with cmdInflight := false, orphaned := t.orphaned + 1 } else t

def noAnswer : UInt32 := 0xffffffff

/-- `hostcmd_reset`. -/
def hostcmdReset : State :=
  if !s.initialised then s
  else
    let t := if s.clientFd.isSome && s.cmdInflight then
        pushFrame (notice s "machine reset\n") ⟨.done, bigEndian noAnswer⟩
      else s
    let t := { t with cmdPending := false, cmdInflight := false, cmdLine := [], orphaned := 0, guestRegistered := false }
    if t.internalActive then internalFinish { t with internalDone := none } 0 else t

def stripReturn (line : List UInt8) : List UInt8 :=
  if line.getLast? = some 0x0d then line.dropLast else line

def takeLine (c : ℕ) (now : Int) : State :=
  let t := { s with inBuf := [] }
  let line := stripReturn s.inBuf
  if line.isEmpty then t
  else if t.cmdPending || t.cmdInflight then notice t "busy, command dropped\n"
  else { t with cmdLine := line, cmdPending := true, cmdQueuedMs := now }.note (.accepted (.client c))

/-- One round of the loop of `hc_read_client`. -/
def readByte (c : ℕ) (now : Int) (b : UInt8) : State :=
  if s.inOverflow then
    if b = 0x0a then notice { s with inOverflow := false } "command too long, ignored\n" else s
  else if b = 0x0a then takeLine s c now
  else if s.inBuf.length < 255 then { s with inBuf := s.inBuf ++ [b] }
  else { s with inOverflow := true, inBuf := [] }

/-- What `recv` gives; no bytes are the end of the stream. -/
inductive RecvResult
  | received (bytes : List UInt8)
  | wouldBlock
  | failed

/-- `hc_read_client`. -/
def readClient (c : ℕ) (now : Int) : RecvResult → State
  | .received [] => dropClient s
  | .received (b :: bytes) => ((b :: bytes).take 4096).foldl (fun s b => readByte s c now b) s
  | .wouldBlock => s
  | .failed => dropClient s

/-- What `send` gives. -/
inductive SendResult
  | sent (n : ℕ)
  | wouldBlock
  | failed

/-- The loop of `hc_write_client`, and whether a `send` failed.  The socket takes no more than it is offered. -/
def writeLoop (c : ℕ) : List SendResult → State → Bool × State
  | [], s => (false, s)
  | result :: results, s =>
    if s.ring.used = 0 then (false, s)
    else
      match result with
      | .failed => (true, s)
      | .wouldBlock => (false, s)
      | .sent n =>
        let n := min n s.ring.contig.toNat
        if n = 0 then (false, s)
        else
          writeLoop c results ({ s with ring := s.ring.sent (UInt64.ofNat n) }.note (.sent c (s.ring.offered n)))

/-- `hc_write_client`. -/
def writeClient (c : ℕ) (results : List SendResult) : State :=
  let (failed, t) := writeLoop c results s
  if failed then dropClient t else t

/-! ## Commands from inside the emulator -/

/-- `hostcmd_internal_submit`, for a command that is no null pointer: whether it was queued. -/
def internalSubmit (command : List UInt8) (now : Int) : Bool × State :=
  if command.length = 0 || 256 < command.length + 1 then (false, s)
  else if !(s.initialised && s.guestRegistered) then (false, s)
  else if s.internalActive || s.cmdPending || s.cmdInflight then (false, s)
  else
    let t := { s with
      cmdLine := command, cmdPending := true, cmdQueuedMs := now, cmdInflight := false, internalActive := true,
      internalDone := some s.submissions, internalOut := [], internalOutCap := 0, internalOutFailed := false,
      submissions := s.submissions + 1 }
    (true, t.note (.accepted (.internal s.submissions)))

/-- `hostcmd_internal_abandon`. -/
def internalAbandon : State :=
  if !s.internalActive then s
  else
    let t := { s with internalDone := none }.note .abandoned
    let t :=
      if t.cmdPending then { t with cmdPending := false, cmdLine := [] }
      else if t.cmdInflight then { t with cmdInflight := false, orphaned := t.orphaned + 1 }
      else t
    internalFinish t 0

/-- The command is given up for `why`. -/
def giveUp (why : String) : State :=
  let t := { s with cmdPending := false, cmdLine := [] }
  if t.internalActive then internalFinish t noAnswer
  else if t.clientFd.isSome then
    pushFrame (notice t ("RPCEmu: " ++ why ++ "\n")) ⟨.done, bigEndian noAnswer⟩
  else t

/-- `hc_expire_pending_command`; the clock is read twice. -/
def expirePendingCommand (now later : Int) : State :=
  if !s.cmdPending || s.cmdInflight then s
  else if !s.guestRegistered then
    if now - s.cmdQueuedMs < 1000 then s
    else giveUp s "no guest module has collected a command: it is not running, or the machine has not finished booting"
  else if later - s.guestSeenMs < 15000 then s
  else giveUp s "the guest module has stopped polling: the machine may be paused, or stuck in an error box"

/-! ## The tick -/

structure Tick where
  now : Int
  later : Int
  lineNow : Int
  /-- Somebody waits to connect, and `accept` succeeds. -/
  arrives : Bool
  /-- `config.name` -/
  name : String
  /-- `POLLERR`, `POLLHUP` or `POLLNVAL` on the client's socket. -/
  broken : Bool
  readable : Bool
  writable : Bool
  recv : RecvResult
  sends : List SendResult

def greeting (name : String) : String := "RPCEmu HostCmd v1 (running on " ++ name ++ ")\n"

def acceptClient (tick : Tick) : State :=
  let t := { s with sinceListenCheck := s.sinceListenCheck + 1 }
  if t.sinceListenCheck &&& 0x3f ≠ 0 then t
  else if tick.arrives then
    let t := { t with
      clientFd := some s.connections, inBuf := [], inOverflow := false, ring := s.ring.clear,
      connections := s.connections + 1 }
    notice (t.note (.connected s.connections)) (greeting tick.name)
  else t

/-- What is asked of `poll`: bytes to read while the slot is free, room to write while there is something to send. -/
def wantsIn : Bool := !s.cmdPending && !s.cmdInflight

def wantsOut : Bool := s.ring.used ≠ 0

def serveIn (c : ℕ) (tick : Tick) : State :=
  if wantsIn s && tick.readable then readClient s c tick.lineNow tick.recv else s

def serveClient (c : ℕ) (tick : Tick) : State :=
  if !(wantsIn s || wantsOut s) then s
  else if tick.broken then dropClient s
  else
    let t := serveIn s c tick
    if t.clientFd.isNone then t
    else if wantsOut s && tick.writable then writeClient t c tick.sends
    else t

/-- `hostcmd_poll`, after the command that waits too long is given up. -/
def serve (tick : Tick) : State :=
  match s.clientFd with
  | none => acceptClient s tick
  | some c => serveClient s c tick

/-- `hostcmd_poll`. -/
def hostcmdPoll (tick : Tick) : State :=
  if !s.listening then s else serve (expirePendingCommand s tick.now tick.later) tick

/-! ## The events -/

inductive Event
  | register (now : Int)
  | poll (bufptr bufsize : UInt32) (now : Int)
  | output (load : UInt32 → UInt8) (alloc : ℕ → Bool) (ptr len : UInt32)
  | status (marker rc : UInt32)
  | submit (command : List UInt8) (now : Int)
  | abandon
  | reset
  | tick (tick : Tick)

def act : Event → State
  | .register now => (swiRegister s now).2
  | .poll bufptr bufsize now => (swiPoll s bufptr bufsize now).2
  | .output load alloc ptr len => (swiOutput s load alloc ptr len).2
  | .status marker rc => (swiStatus s marker rc).2
  | .submit command now => (internalSubmit s command now).2
  | .abandon => internalAbandon s
  | .reset => hostcmdReset s
  | .tick tick => hostcmdPoll s tick

def State.fresh : State := { s with log := [] }

def step (e : Event) : State := act s.fresh e

end RpcEmu.Hostcmd
