import RpcEmu.Ps2.Port
import Mathlib.Data.Int.Order.Basic

/-!
# The PS/2 mouse

The answers to the guest's commands and, in stream mode, the packets of the movements wait in one queue.  A byte goes
to the data register when the count in `mcallback` runs out; the count is set by a command, by a packet, and by the
guest's read if there is more in the queue.  A reset is a sequence of counts of its own, which goes first.

The mouse is in capture mode; what `mouse_process` does to the quadrature registers is left out.
-/

namespace RpcEmu.Ps2

def auxSetScale11 : UInt8 := 0xe6
def auxSetScale21 : UInt8 := 0xe7
def auxSetRes : UInt8 := 0xe8
def auxGetType : UInt8 := 0xf2
def auxSetSample : UInt8 := 0xf3
def auxEnableDev : UInt8 := 0xf4
def auxResend : UInt8 := 0xfe
def auxReset : UInt8 := 0xff
def auxTestOk : UInt8 := 0xaa
def auxAck : UInt8 := 0xfa

/-- The machine has a PS/2 mouse; `config.mousetwobutton`. -/
structure MouseConfig where
  ps2 : Bool
  mousetwobutton : Bool

/-- `mouse`, the variables of the PS/2 side, `mcallback` and the two interrupt lines. -/
structure Mouse where
  buttons : UInt8
  dx : Int
  dy : Int
  oldmouseb : UInt8
  oldz : Int
  msreset : Nat
  msstat : UInt8
  msdata : UInt8
  mousepoll : Bool
  msincommand : UInt8
  justsent : Bool
  msqueue : PS2Queue
  mouseType : UInt8
  mouseDetectState : Nat
  mcallback : Nat
  irqRx : Bool
  irqTx : Bool

/-- What `keyboard_reset` makes of it. -/
def mouseReset : Mouse where
  buttons := 0
  dx := 0
  dy := 0
  oldmouseb := 0
  oldz := 0
  msreset := 0
  msstat := 0
  msdata := 0
  mousepoll := false
  msincommand := 0
  justsent := false
  msqueue := ⟨fun _ => 0, 0, 0, 0⟩
  mouseType := 0
  mouseDetectState := 0
  mcallback := 0
  irqRx := false
  irqTx := false

section Operations

variable (cfg : MouseConfig) (s : Mouse)

/-- `mouse_control_write`. -/
def mouseControlWrite (v : UInt8) : Mouse :=
  if v &&& ps2ControlEnable ≠ 0 then
    { s with msreset := 1, mcallback := 20, msstat := s.msstat ||| ps2ControlEnable }
  else { s with msstat := s.msstat &&& ~~~ps2ControlEnable }

def answer (bytes : List UInt8) : Mouse := { s with msqueue := ps2QueueAll s.msqueue bytes, mcallback := 20 }

def detect (val : UInt8) : Mouse :=
  match s.mouseDetectState with
  | 1 => { s with mouseDetectState := if val = 100 then 2 else if val = 200 then 3 else 0 }
  | 2 => { s with mouseType := if val = 80 then 3 else s.mouseType, mouseDetectState := 0 }
  | 3 => { s with mouseType := if val = 80 then 4 else s.mouseType, mouseDetectState := 0 }
  | _ => if val = 200 then { s with mouseDetectState := 1 } else s

/-- The first lines of `mouse_data_write`. -/
def writeEntry : Mouse := { s with msstat := s.msstat &&& 0x3f ||| ps2ControlTxBusy, irqTx := false, justsent := true }

/-- `mouse_data_write`; a command that there is not is fatal. -/
def mouseDataWrite (val : UInt8) : Option Mouse :=
  let s := writeEntry s
  if s.msincommand ≠ 0 then
    if s.msincommand = auxSetRes then some { answer s [auxAck] with msincommand := 0 }
    else if s.msincommand = auxSetSample then some { answer (detect s val) [auxAck] with msincommand := 0 }
    else some s
  else if val = auxReset then some { s with msreset := 2, mousepoll := false, mcallback := 20 }
  else if val = auxResend then some { s with mcallback := 150 }
  else if val = auxEnableDev then some { answer s [auxAck] with mousepoll := true }
  else if val = auxSetSample then some { answer s [auxAck] with msincommand := auxSetSample }
  else if val = auxGetType then some (answer s [auxAck, s.mouseType])
  else if val = auxSetRes then some { answer s [auxAck] with msincommand := auxSetRes }
  else if val = auxSetScale21 ∨ val = auxSetScale11 then some (answer s [auxAck])
  else none

/-- `mouse_data_read`. -/
def mouseDataRead : UInt8 × Mouse :=
  (s.msdata,
    { s with
      msstat := readStat s.msstat, irqRx := false, msdata := 0
      mcallback := if s.msqueue.count ≠ 0 then 20 else s.mcallback })

/-- `mouse_send`. -/
def mouseSend (v : UInt8) : Mouse := { s with msdata := v, irqRx := true, msstat := sentStat s.msstat v }

/-- The first lines of `mouse_ps2_callback`. -/
def callbackEntry : Mouse :=
  { s with msstat := s.msstat &&& 0x3f ||| ps2ControlTxEmpty, irqTx := s.irqTx || s.justsent, justsent := false }

/-- `mouse_ps2_callback`. -/
def mousePs2Callback : Mouse :=
  let s := callbackEntry s
  if s.msreset = 1 then { s with irqTx := true, msreset := 3, mcallback := 20 }
  else if s.msreset = 2 then { mouseSend s auxAck with msreset := 3, mcallback := 40 }
  else if s.msreset = 3 then { mouseSend s auxTestOk with msreset := 4, mcallback := 20 }
  else if s.msreset = 4 then { mouseSend s 0 with msreset := 0, mcallback := 0 }
  else { mouseSend s (ps2ReadData s.msqueue).1 with msqueue := (ps2ReadData s.msqueue).2 }

/-- `assert(msqueue.count > 0)`, if the callback comes to it. -/
def CallbackAsserts : Prop := s.msreset ∉ [1, 2, 3, 4] → 0 < s.msqueue.count

def clamp (x : Int) : Int := max (-256) (min x 255)

def exchanged (mouseb : UInt8) : UInt8 :=
  let mousel : UInt8 := mouseb &&& 1
  let mouser : UInt8 := (mouseb &&& 2) >>> 1
  let mousem : UInt8 := (mouseb &&& 4) >>> 2
  mousel ||| mousem <<< 1 ||| mouser <<< 2

def shownButtons : UInt8 := if cfg.mousetwobutton then exchanged (s.buttons &&& 7) else s.buttons &&& 7

/-- `x & 0x100`. -/
def bit8 (x : Int) : Bool := x / 256 % 2 = 1

def headByte (mouseb : UInt8) (sx sy : Bool) : UInt8 :=
  mouseb &&& 7 ||| 8 ||| (if sx then 0x10 else 0) ||| (if sy then 0x20 else 0)

def wheelBytes (z : Int) : List UInt8 :=
  if s.mouseType = 3 then [UInt8.ofInt (max (-127) (min z 127))]
  else if s.mouseType = 4 then [UInt8.ofInt (max (-7) (min z 7)) &&& 0x0f]
  else []

/-- What `mouse_process` queues, `y` the other way up. -/
def packet : List UInt8 :=
  let x := clamp s.dx
  let y := -clamp s.dy
  [headByte (shownButtons cfg s) (bit8 x) (bit8 y), UInt8.ofInt x, UInt8.ofInt y] ++ wheelBytes s s.oldz

def tells : Bool :=
  cfg.ps2 && s.mousepoll &&
    !(s.dx == 0 && s.dy == 0 && s.buttons &&& (7 : UInt8) == s.oldmouseb && (s.mouseType == 0 || s.oldz == 0))

/-- `mouse_process`. -/
def mouseProcess : Mouse :=
  if tells cfg s then
    { s with
      oldmouseb := s.buttons &&& 7, oldz := 0, msqueue := ps2QueueAll s.msqueue (packet cfg s), mcallback := 20 }
  else s

/-- `mouse_mouse_move_relative`. -/
def mouseMoveRelative (dx dy : Int) : Mouse := mouseProcess cfg { s with dx, dy }

/-- `mouse_mouse_press`. -/
def mousePress (buttons : UInt8) : Mouse := mouseProcess cfg { s with buttons := s.buttons ||| buttons }

/-- `mouse_mouse_release`. -/
def mouseRelease (buttons : UInt8) : Mouse := mouseProcess cfg { s with buttons := s.buttons &&& ~~~buttons }

/-- The main loop counts `mcallback` down, by ten. -/
def mouseCountDown : Mouse :=
  if s.mcallback = 0 then s
  else if s.mcallback ≤ 10 then mousePs2Callback { s with mcallback := 0 }
  else { s with mcallback := s.mcallback - 10 }

end Operations

/-! ## Events in any order -/

inductive MouseEvent where
  | move (dx dy : Int)
  | press (buttons : UInt8)
  | release (buttons : UInt8)
  | dataWrite (val : UInt8)
  | controlWrite (v : UInt8)
  | dataRead
  | count
  deriving DecidableEq, Repr

def mouseStep (cfg : MouseConfig) (s : Mouse) : MouseEvent → Mouse
  | .move dx dy => mouseMoveRelative cfg s dx dy
  | .press buttons => mousePress cfg s buttons
  | .release buttons => mouseRelease cfg s buttons
  | .dataWrite val => (mouseDataWrite s val).getD s
  | .controlWrite v => mouseControlWrite s v
  | .dataRead => (mouseDataRead s).2
  | .count => mouseCountDown s

/-! ## What a packet says -/

def decode : List UInt8 → Option (UInt8 × Int × Int)
  | head :: x :: y :: _ =>
    some (head &&& 7, x.toNat - (if head &&& 0x10 ≠ 0 then 256 else 0), y.toNat - (if head &&& 0x20 ≠ 0 then 256 else 0))
  | _ => none

end RpcEmu.Ps2
