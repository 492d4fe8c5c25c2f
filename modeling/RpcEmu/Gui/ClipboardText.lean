import RpcEmu.Gui.Clipboard
import Mathlib.Data.Fintype.Basic

/-!
# A text through its encodings

`clip_set_from_utf8` of `hostclipboard.c`, which reads what `clip_to_utf8` writes; and a text of the guest's, which
goes to UCS-4 and back through the guest's table.

A character's first byte says how many are to follow; one that ends early, or starts with no such byte, is taken
for what is there of it.
-/

namespace RpcEmu.Gui

/-! ## Reading UTF-8 -/

def kept (table : UInt8 → UInt32) (guest : List UInt8) : List UInt8 :=
  guest.filter fun b => b ≠ 0 ∧ table b ≠ 0xffffffff

section Table

variable {c : Clipboard} {table : UInt8 → UInt32}

end Table

/-! ## The calls -/

section Calls

variable {e : Around} {mem : UInt32 → UInt8} {c : Clipboard} {r1 r2 room : UInt32}

def Outcome.fetched (o : Outcome) : List UInt8 :=
  match o.toGuest with
  | some (_, bytes) => bytes.take o.r0.toNat
  | none => []

end Calls

end RpcEmu.Gui
