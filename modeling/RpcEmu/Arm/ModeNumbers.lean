import Mathlib.Data.UInt

/-!
# Mode numbers and status bits

What `arm.h` and `arm_common.h` say of a mode by its number, and which bits of a status register there are.  Both
models of the core, with its registers and with its memory, go by these.
-/

namespace RpcEmu

/-- `ARM_MODE_32`. -/
def armMode32 (mode : UInt32) : Bool := mode &&& 0x10 != 0

/-- `ARM_MODE_PRIV`. -/
def armModePriv (mode : UInt32) : Bool := mode &&& 0xf != 0

/-- `ARM_MODE_HAS_SPSR`. -/
def armModeHasSpsr (mode : UInt32) : Bool := armModePriv mode && mode != 0x1f

/-- `PSR_BITS_VALID`. -/
def psrBitsValid : UInt32 := 0xf00000df

/-- `msrlookup`: a byte of the register for each bit of the field. -/
def msrlookup (field : UInt32) : UInt32 :=
  (if field &&& 1 ≠ 0 then 0x000000ff else 0) ||| (if field &&& 2 ≠ 0 then 0x0000ff00 else 0) |||
    (if field &&& 4 ≠ 0 then 0x00ff0000 else 0) ||| (if field &&& 8 ≠ 0 then 0xff000000 else 0)

end RpcEmu
