import RpcEmu.Lib.Program

/-!
# How a co-processor core reaches memory

The cores funnel every access through one read and one write helper, and those either go through
a *hook* the card installs (`cpu_mem.h`) or index the core's RAM directly.  A core therefore never
holds memory: it is a program over the operations below, and what replies decides what memory is.

A write carries the core's cycle counter, because the hook behind it may read it: that is where the
cycle stamp of a logged write comes from.
-/

namespace RpcEmu

open Effects

/-- `CPU_MEM_PORT`: OR'd into an address to mark an access to the port space. -/
def cpuMemPort : UInt32 := 0x10000

/-- `cpu_mem_result`: what an access through a hook did. -/
inductive CpuMemResult
  | ok
  | stall
  | busError
  deriving DecidableEq, Repr

def CpuMemResult.isStall : CpuMemResult → Bool
  | stall => true
  | _ => false

def CpuMemResult.isBusError : CpuMemResult → Bool
  | busError => true
  | _ => false

inductive CpuOp
  /-- `mem.read(ctx, addr, &val)` -/
  | memRead (addr : UInt32)
  /-- `mem.write(ctx, addr, val)`, made when the core's cycle counter reads `cycles` -/
  | memWrite (addr : UInt32) (val : UInt8) (cycles : UInt64)
  /-- `ram[addr]`, with no hook installed -/
  | ramRead (addr : UInt32)
  /-- `ram[addr] = val`, with no hook installed -/
  | ramWrite (addr : UInt32) (val : UInt8)
  /-- the port latch or the card's `io_in`, with no hook installed -/
  | ioIn (port : UInt8)
  /-- the port latch or the card's `io_out`, with no hook installed -/
  | ioOut (port : UInt8) (val : UInt8)
  deriving DecidableEq, Repr

abbrev CpuOp.Reply : CpuOp → Type
  | memRead _ => CpuMemResult × UInt8
  | memWrite _ _ _ => CpuMemResult
  | ramRead _ => UInt8
  | ramWrite _ _ => Unit
  | ioIn _ => UInt8
  | ioOut _ _ => Unit

/-- A core's code: a program over `CpuOp`. -/
abbrev CpuProg := Prog CpuOp CpuOp.Reply

abbrev Exec (σ : Type) := StateT σ CpuProg

def access {σ : Type} (op : CpuOp) : Exec σ op.Reply := StateT.lift (Prog.perform op)

/-- The loop of every core's `run`: whole steps until the budget is reached, or one of them uses no
cycles.  A step uses a cycle at least, so `cycles` rounds are enough. -/
def coreLoop {σ : Type} (step : Exec σ Nat) : Nat → Nat → Nat → Exec σ Nat
  | 0, used, _ => pure used
  | rounds + 1, used, cycles =>
    if used < cycles then do
      let n ← step
      if n = 0 then pure used else coreLoop step rounds (used + n) cycles
    else pure used

/-- `run`: execute until `cycles` are used up or the core stops. -/
def coreRun {σ : Type} (step : Exec σ Nat) (cycles : Nat) : Exec σ Nat :=
  coreLoop step cycles 0 cycles

abbrev CpuAsked := Asked CpuOp CpuOp.Reply

def CpuOp.stalls : (op : CpuOp) → op.Reply → Bool
  | memRead _, r => r.1.isStall
  | memWrite _ _ _, r => CpuMemResult.isStall r
  | ramRead _, _ => false
  | ramWrite _ _, _ => false
  | ioIn _, _ => false
  | ioOut _ _, _ => false

def CpuOp.errs : (op : CpuOp) → op.Reply → Bool
  | memRead _, r => r.1.isBusError
  | memWrite _ _ _, r => CpuMemResult.isBusError r
  | ramRead _, _ => false
  | ramWrite _ _, _ => false
  | ioIn _, _ => false
  | ioOut _ _, _ => false

def anyStall (tr : List CpuAsked) : Bool := tr.any fun e => e.1.stalls e.2

def anyBusError (tr : List CpuAsked) : Bool := tr.any fun e => e.1.errs e.2

@[simp] lemma anyStall_nil : anyStall [] = false := rfl

@[simp] lemma anyStall_append (tr tr' : List CpuAsked) :
    anyStall (tr ++ tr') = (anyStall tr || anyStall tr') := by simp [anyStall]

@[simp] lemma anyBusError_nil : anyBusError [] = false := rfl

@[simp] lemma anyBusError_append (tr tr' : List CpuAsked) :
    anyBusError (tr ++ tr') = (anyBusError tr || anyBusError tr') := by simp [anyBusError]

def byteOf : CpuMemResult × UInt8 → UInt8
  | (.ok, v) => v
  | (.stall, _) => 0
  | (.busError, _) => 0

def askedByte : CpuAsked → Option UInt8
  | ⟨.memRead _, r⟩ => some (byteOf r)
  | ⟨.memWrite _ _ _, _⟩ => none
  | ⟨.ramRead _, _⟩ => none
  | ⟨.ramWrite _ _, _⟩ => none
  | ⟨.ioIn _, _⟩ => none
  | ⟨.ioOut _ _, _⟩ => none

def bytesRead (tr : List CpuAsked) : List UInt8 := tr.filterMap askedByte

@[simp] lemma bytesRead_append (tr tr' : List CpuAsked) :
    bytesRead (tr ++ tr') = bytesRead tr ++ bytesRead tr' := List.filterMap_append

def CpuOp.writes : (op : CpuOp) → op.Reply → Bool
  | memRead _, _ => false
  | memWrite _ _ _, r => decide (r = CpuMemResult.ok)
  | ramRead _, _ => false
  | ramWrite _ _, _ => true
  | ioIn _, _ => false
  | ioOut _ _, _ => true

def writesDone (tr : List CpuAsked) : List CpuOp := (tr.filter fun e => e.1.writes e.2).map Sigma.fst

@[simp] lemma writesDone_append (tr tr' : List CpuAsked) :
    writesDone (tr ++ tr') = writesDone tr ++ writesDone tr' := by
  simp [writesDone]

end RpcEmu
