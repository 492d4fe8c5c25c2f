import RpcEmu.Lib.Bytes
import Mathlib.Logic.Function.Basic
import Mathlib.Tactic.Common
import Mathlib.Algebra.NeZero

/-!
# The physical memory map

What `mem_phys_read32`, `mem_phys_read8`, `mem_phys_write32` and `mem_phys_write8` of `mem.c` reach.
The map is decoded in 16MB chunks: ROM, VRAM, I/O, the expansion cards' EASI space with the graphics
card's framestore in it, the SIMMs and the Kinetic's SDRAM banks.  Which memory is fitted and how
large it is follows from the machine (`mem_reset`).

I/O devices and expansion cards are a parameter: a state of their own and what they answer.
-/

namespace RpcEmu.Mmu

open Bytes

inductive Model
  | rpcArm610 | rpcArm710 | rpcSA110 | a7000 | a7000plus | rpcArm810 | phoebe | kinetic
  deriving DecidableEq

inductive CPUModel
  | arm610 | arm710 | sa110 | arm7500 | arm7500FE | arm810
  deriving DecidableEq

/-- Blocks of host memory that guest addresses can be backed by.  `fb` is the graphics card's
framestore. -/
inductive Region
  | rom | vram | fb | ram00 | ram01 | ram1 | sdram0 | sdram1
  deriving DecidableEq

/-- The machine as configured: RAM is a power of two from 4MB to 512MB, VRAM up to the 16MB its
aperture holds, and the graphics card is in one of eight slots, if at all.  The sizes of the TLB's
ring and of the fast maps' rings are constants of the build that nothing may depend on. -/
structure Config where
  model : Model
  cpuModel : CPUModel
  ramDoublings : Fin 8
  vramSize : Fin 17
  gfxcardSlot : Option (Fin 8)
  tlbcachesize : Nat := 256
  vaddrRingSize : Nat := 16384
  tlbcachesize_pos : 0 < tlbcachesize := by decide
  vaddrRingSize_pos : 0 < vaddrRingSize := by decide

instance (cfg : Config) : NeZero cfg.tlbcachesize := ⟨cfg.tlbcachesize_pos.ne'⟩

instance (cfg : Config) : NeZero cfg.vaddrRingSize := ⟨cfg.vaddrRingSize_pos.ne'⟩

/-! ## What `mem_reset` fits -/

section Fitted

variable (cfg : Config)

def ramsize : Nat :=
  if cfg.model ≠ .kinetic ∧ 256 < 4 * 2 ^ cfg.ramDoublings.val then 256
  else 4 * 2 ^ cfg.ramDoublings.val

def haveSdram : Bool := decide (256 < ramsize cfg)

def haveRam1 : Bool := decide (256 ≤ ramsize cfg)

def simm0 : Nat := if haveRam1 cfg then 128 else ramsize cfg

def memRammask : UInt32 := UInt32.ofNat (simm0 cfg * 1024 * 1024 / 2 - 1)

def memVrammask : UInt32 :=
  if cfg.vramSize.val ≠ 0 then UInt32.ofNat (cfg.vramSize.val * 1024 * 1024 - 1) else 0

def physSpaceMask : UInt32 :=
  if cfg.model = .phoebe ∨ cfg.model = .kinetic then 0x3fffffff else 0x1fffffff

def simm1Mask : UInt32 := 0x7ffffff

def sdramBankMask : UInt32 := 0x7ffffff

def gfxcardFbSize : UInt32 := 0x00f00000

def gfxcardFbPhys : UInt32 :=
  match cfg.gfxcardSlot with
  | some slot => 0x08000000 + UInt32.ofNat slot.val * 0x01000000 + 0x00100000
  | none => 0

def inFramestore (addr : UInt32) : Bool :=
  cfg.gfxcardSlot.isSome && decide (addr - gfxcardFbPhys cfg < gfxcardFbSize)

end Fitted

/-! ## The decode -/

inductive Chunk
  | rom | vram | io | easi | simm0Bank0 | simm0Bank1 | simm1 | sdram0 | sdram1 | unused
  deriving DecidableEq

def chunkCase (c : UInt32) : Chunk :=
  if c = 0x00 then .rom
  else if c = 0x02 then .vram
  else if c = 0x03 then .io
  else if 0x08 ≤ c ∧ c ≤ 0x0f then .easi
  else if 0x10 ≤ c ∧ c ≤ 0x13 then .simm0Bank0
  else if 0x14 ≤ c ∧ c ≤ 0x17 then .simm0Bank1
  else if 0x18 ≤ c ∧ c ≤ 0x1f then .simm1
  else if 0x20 ≤ c ∧ c ≤ 0x2f then .sdram0
  else if 0x30 ≤ c ∧ c ≤ 0x3f then .sdram1
  else .unused

/-- `switch (addr & (phys_space_mask & 0xff000000))`. -/
def chunk (cfg : Config) (addr : UInt32) : Chunk :=
  chunkCase ((addr &&& (physSpaceMask cfg &&& 0xff000000)) >>> 24)

inductive Target
  | memory (r : Region) (off : UInt32)
  | noVram
  | device
  | nothing
  deriving DecidableEq

def decode (cfg : Config) (addr : UInt32) : Target :=
  match chunk cfg addr with
  | .rom => .memory .rom (addr &&& 0x7fffff)
  | .vram => if memVrammask cfg = 0 then .noVram else .memory .vram (addr &&& memVrammask cfg)
  | .io => .device
  | .easi => if inFramestore cfg addr then .memory .fb (addr - gfxcardFbPhys cfg) else .device
  | .simm0Bank0 => .memory .ram00 (addr &&& memRammask cfg)
  | .simm0Bank1 => .memory .ram01 (addr &&& memRammask cfg)
  | .simm1 => if haveRam1 cfg then .memory .ram1 (addr &&& simm1Mask) else .nothing
  | .sdram0 => if haveSdram cfg then .memory .sdram0 (addr &&& sdramBankMask) else .nothing
  | .sdram1 => if haveSdram cfg then .memory .sdram1 (addr &&& sdramBankMask) else .nothing
  | .unused => .nothing

abbrev Memory := Region → Block

structure Devices (D : Type) where
  read32 : D → UInt32 → UInt32 × D
  read8 : D → UInt32 → UInt32 × D
  write32 : D → UInt32 → UInt32 → D
  write8 : D → UInt32 → UInt8 → D

section Accesses

variable {D : Type} (cfg : Config) (io : Devices D) (m : Memory) (d : D) (addr : UInt32)

/-- `mem_phys_read32`.  The framestore is copied from where the address points; the other regions are
arrays of words. -/
def memPhysRead32 : UInt32 × D :=
  let addr := addr &&& physSpaceMask cfg
  match decode cfg addr with
  | .memory .fb off => ((m .fb).word off, d)
  | .memory r off => ((m r).word (off &&& ~~~3), d)
  | .noVram => (0xffffffff, d)
  | .device => io.read32 d addr
  | .nothing => (0, d)

/-- `mem_phys_read8`. -/
def memPhysRead8 : UInt32 × D :=
  let addr := addr &&& physSpaceMask cfg
  match decode cfg addr with
  | .memory r off => ((m r off).toUInt32, d)
  | .noVram => (0xff, d)
  | .device => io.read8 d addr
  | .nothing => (0xff, d)

/-- `mem_phys_write32`; the ROM has no case. -/
def memPhysWrite32 (val : UInt32) : Memory × D :=
  let addr := addr &&& physSpaceMask cfg
  match decode cfg addr with
  | .memory .rom _ => (m, d)
  | .memory .fb off => (Function.update m .fb ((m .fb).setWord off val), d)
  | .memory r off => (Function.update m r ((m r).setWord (off &&& ~~~3) val), d)
  | .device => (m, io.write32 d addr val)
  | .noVram | .nothing => (m, d)

/-- `mem_phys_write8`; the ROM has no case. -/
def memPhysWrite8 (val : UInt8) : Memory × D :=
  let addr := addr &&& physSpaceMask cfg
  match decode cfg addr with
  | .memory .rom _ => (m, d)
  | .memory r off => (Function.update m r ((m r).set off val), d)
  | .device => (m, io.write8 d addr val)
  | .noVram | .nothing => (m, d)

end Accesses

end RpcEmu.Mmu
