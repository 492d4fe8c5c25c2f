import RpcEmu.Lib.Bytes
import Mathlib.Data.List.GetD

/-!
# Frames and addresses

What the wires and the relay read of a frame, and the guests' network of `guest_subnet.c`.
-/

namespace RpcEmu.Net

def u8 (p : List UInt8) (i : Nat) : UInt8 := p.getD i 0

def be16 (p : List UInt8) (i : Nat) : UInt16 := ((u8 p i).toUInt16 <<< 8) ||| (u8 p (i + 1)).toUInt16

def be32 (p : List UInt8) (i : Nat) : UInt32 :=
  Bytes.word (u8 p (i + 3)) (u8 p (i + 2)) (u8 p (i + 1)) (u8 p i)

def be16Bytes (v : UInt16) : List UInt8 := [(v >>> 8).toUInt8, v.toUInt8]

def be32Bytes (v : UInt32) : List UInt8 :=
  [(v >>> 24).toUInt8, (v >>> 16).toUInt8, (v >>> 8).toUInt8, v.toUInt8]

lemma be32_bytes (front back : List UInt8) (v : UInt32) :
    be32 (front ++ (be32Bytes v ++ back)) front.length = v := by
  have hbyte : ∀ k, u8 (front ++ (be32Bytes v ++ back)) (front.length + k) = u8 (be32Bytes v ++ back) k := by
    intro k
    rw [u8, u8, List.getD_append_right _ _ _ _ (Nat.le_add_right _ _), Nat.add_sub_cancel_left]
  have hfirst := hbyte 0
  rw [Nat.add_zero] at hfirst
  rw [be32, hbyte, hbyte, hbyte, hfirst]
  exact Bytes.word_bytes v

/-- `network_hwaddr`. -/
structure Mac where
  a : UInt8
  b : UInt8
  c : UInt8
  d : UInt8
  e : UInt8
  f : UInt8
  deriving DecidableEq

def Mac.bytes (m : Mac) : List UInt8 := [m.a, m.b, m.c, m.d, m.e, m.f]

/-- `net_switch_frame_is_for_us`. -/
def netSwitchFrameIsForUs (frame ourMac : List UInt8) : Bool :=
  if frame.length < 14 then false
  else if (u8 frame 0) &&& 1 ≠ 0 then true
  else frame.take 6 == ourMac

/-! ## The guests' network -/

def guestNetAddr : UInt32 := 0x64400000
def guestNetMask : UInt32 := 0xffc00000
def guestNetBroadcast : UInt32 := 0x647fffff

/-- `mac_hash`. -/
def macHash (hwaddr : Mac) : UInt32 :=
  hwaddr.bytes.foldl (fun h b => (h ^^^ b.toUInt32) * 16777619) 2166136261

/-- `guest_subnet_guest`. -/
def guestSubnetGuest (hwaddr : Mac) : UInt32 :=
  let hostBits := ~~~guestNetMask
  let host := macHash hwaddr &&& hostBits
  guestNetAddr ||| (if host < 3 then host + 3 else if host = hostBits then hostBits - 1 else host)

end RpcEmu.Net
