import RpcEmu.Lib.Bytes
import RpcEmu.Copro.CpuMem

/-!
# The co-processor card's address decode

`copro_bus.c`: what a core's loads and stores mean.  The guest describes the core's address space
by a table of regions in the *control area*, memory the card owns and the core cannot see; writes to
some regions are logged in a ring there, and an access to a stalling region stops the core until
the guest answers it.

The card RAM and the control area are `Bytes.Block`s with a size beside them, and a flag for the
`NULL` pointer.  All other fields are the source's, 32 bits wide and wrapping as `uint32_t` does.
-/

namespace RpcEmu

open Bytes

/-- `sizeof(copro_region)`, and `sizeof(copro_log_entry)`: four words each. -/
def entrySize : Nat := 16

/-- `COPRO_REGION_PORT`: the region is in the port space. -/
def coproRegionPort : UInt32 := 0x100

/-- `COPRO_REGION_OFFSET`: the region is a window onto card RAM at its `latch` offset. -/
def coproRegionOffset : UInt32 := 0x200

/-- `copro_region_kind`. -/
inductive CoproRegionKind
  | ram
  | rom
  | log
  | latch
  | stall
  | unmapped
  deriving DecidableEq, Repr

/-- `COPRO_REGION_KIND` and the `switch` on it: any value without a case of its own is unmapped. -/
def coproRegionKind (kind : UInt32) : CoproRegionKind :=
  match kind &&& 0xff with
  | 0 => .ram
  | 1 => .rom
  | 2 => .log
  | 3 => .latch
  | 4 => .stall
  | _ => .unmapped

/-- `copro_log_entry`: one logged write. -/
structure CoproLogEntry where
  cycle : UInt32
  addr : UInt32
  value : UInt32
  info : UInt32
  deriving DecidableEq, Repr

/-- `COPRO_LOG_INFO_PORT`. -/
def coproLogInfoPort : UInt32 := 0x01

/-- `COPRO_LOG_INFO_DROPPED`. -/
def coproLogInfoDropped : UInt32 := 0x02

/-- `copro_bus_result`. -/
inductive CoproBusResult
  | ok
  | stall
  | busError
  deriving DecidableEq, Repr

/-- `copro_bus`. -/
structure CoproBus where
  ram : Block
  ramPresent : Bool
  ramSize : UInt32
  ctl : Block
  ctlPresent : Bool
  ctlSize : UInt32
  mapOff : UInt32
  mapCount : UInt32
  logOff : UInt32
  logEntries : UInt32
  logHead : UInt32
  logTail : UInt32
  logDropped : UInt32
  stalled : Bool
  waitAddr : UInt32
  waitValue : UInt32
  waitIsWrite : Bool
  waitIsPort : Bool
  answerValid : Bool
  answerAddr : UInt32
  answerValue : UInt32
  answerIsWrite : Bool
  cycleSource : Bool

/-- `copro_bus_init`: attached to a core's RAM and the card's control area, all else zero. -/
def coproBusInit (ram : Block) (ramPresent : Bool) (ramSize : UInt32) (ctl : Block)
    (ctlPresent : Bool) (ctlSize : UInt32) : CoproBus where
  ram := ram
  ramPresent := ramPresent
  ramSize := ramSize
  ctl := ctl
  ctlPresent := ctlPresent
  ctlSize := ctlSize
  mapOff := 0
  mapCount := 0
  logOff := 0
  logEntries := 0
  logHead := 0
  logTail := 0
  logDropped := 0
  stalled := false
  waitAddr := 0
  waitValue := 0
  waitIsWrite := false
  waitIsPort := false
  answerValid := false
  answerAddr := 0
  answerValue := 0
  answerIsWrite := false
  cycleSource := false

/-- `copro_bus_set_cycle_source`, with a source (`true`) or `NULL`. -/
def coproBusSetCycleSource (bus : CoproBus) (source : Bool) : CoproBus :=
  { bus with cycleSource := source }

/-! ## The control area -/

/-- The bytes `ctl_word` and `ctl_set_word` touch: none when the bounds test refuses.  The test
`offset + 4 > ctl_size` is a 32-bit sum. -/
def ctlWordBytes (bus : CoproBus) (offset : UInt32) : List UInt32 :=
  if !bus.ctlPresent || bus.ctlSize < offset + 4 then []
  else [offset, offset + 1, offset + 2, offset + 3]

/-- `ctl_word`. -/
def ctlWord (bus : CoproBus) (offset : UInt32) : UInt32 :=
  match ctlWordBytes bus offset with
  | [b0, b1, b2, b3] => word (bus.ctl b0) (bus.ctl b1) (bus.ctl b2) (bus.ctl b3)
  | _ => 0

/-- `ctl_set_word`. -/
def ctlSetWord (bus : CoproBus) (offset value : UInt32) : CoproBus :=
  match ctlWordBytes bus offset with
  | [b0, b1, b2, b3] =>
    { bus with ctl := (((bus.ctl.set b0 value.toUInt8).set b1 (value >>> 8).toUInt8).set b2
        (value >>> 16).toUInt8).set b3 (value >>> 24).toUInt8 }
  | _ => bus

/-- `copro_bus_set_map`: the table must fit, or the map in use stays. -/
def coproBusSetMap (bus : CoproBus) (offset count : UInt32) : Bool × CoproBus :=
  if count = 0 then (true, { bus with mapCount := 0 })
  else if !bus.ctlPresent then (false, bus)
  else if bus.ctlSize.toNat / entrySize < count.toNat then (false, bus)
  else if bus.ctlSize.toNat - count.toNat * entrySize < offset.toNat then (false, bus)
  else (true, { bus with mapOff := offset, mapCount := count })

/-- `copro_bus_set_log`: the ring must fit. -/
def coproBusSetLog (bus : CoproBus) (offset entries : UInt32) : Bool × CoproBus :=
  if entries = 0 then (true, { bus with logEntries := 0, logHead := 0, logTail := 0 })
  else if !bus.ctlPresent then (false, bus)
  else if bus.ctlSize.toNat / entrySize < entries.toNat then (false, bus)
  else if bus.ctlSize.toNat - entries.toNat * entrySize < offset.toNat then (false, bus)
  else (true, { bus with logOff := offset, logEntries := entries, logHead := 0, logTail := 0,
                         logDropped := 0 })

/-! ## Regions -/

/-- Where entry `i` of the region table starts: `map_off + i * sizeof(copro_region)`. -/
def regionEntry (bus : CoproBus) (i : Nat) : UInt32 := bus.mapOff + UInt32.ofNat i * 16

/-- The test the lookup makes of one entry: the right space, and the address inside it.  Written
as a subtraction, so a region that reaches the top of the address space still matches. -/
def regionMatches (bus : CoproBus) (addr : UInt32) (isPort : Bool) (entry : UInt32) : Bool :=
  let size := ctlWord bus (entry + 4)
  let kind := ctlWord bus (entry + 8)
  let base := ctlWord bus entry
  (decide (kind &&& coproRegionPort ≠ 0) == isPort) &&
    (decide (base ≤ addr) && decide (addr - base < size))

/-- The loop of `copro_bus_region`, from entry `i` with `n` entries left. -/
def coproBusRegionFrom (bus : CoproBus) (addr : UInt32) (isPort : Bool) : Nat → Nat → Option UInt32
  | _, 0 => none
  | i, n + 1 =>
    if regionMatches bus addr isPort (regionEntry bus i) then some (regionEntry bus i)
    else coproBusRegionFrom bus addr isPort (i + 1) n

/-- `copro_bus_region`: the offset in the control area of the entry covering an address. -/
def coproBusRegion (bus : CoproBus) (addr : UInt32) (isPort : Bool) : Option UInt32 :=
  if bus.mapCount = 0 || !bus.ctlPresent then none
  else coproBusRegionFrom bus addr isPort 0 bus.mapCount.toNat

/-- A region's fields, as `region_fields` reads them. -/
structure RegionFields where
  kind : UInt32
  latch : UInt32
  base : UInt32
  deriving DecidableEq, Repr

/-- `region_fields`. -/
def regionFields (bus : CoproBus) (entry : UInt32) : RegionFields where
  base := ctlWord bus entry
  kind := ctlWord bus (entry + 8)
  latch := ctlWord bus (entry + 12)

/-- The loop of `copro_bus_can_stall`. -/
def coproBusCanStallFrom (bus : CoproBus) : Nat → Nat → Bool
  | _, 0 => false
  | i, n + 1 =>
    if ctlWord bus (regionEntry bus i + 4) = 0 then coproBusCanStallFrom bus (i + 1) n
    else if coproRegionKind (ctlWord bus (regionEntry bus i + 8)) = .stall then true
    else coproBusCanStallFrom bus (i + 1) n

/-- `copro_bus_can_stall`: does the map contain a region that can stall? -/
def coproBusCanStall (bus : CoproBus) : Bool := coproBusCanStallFrom bus 0 bus.mapCount.toNat

/-! ## The write log -/

/-- `copro_bus_log_pending`. -/
def coproBusLogPending (bus : CoproBus) : UInt32 :=
  if bus.logEntries = 0 then 0
  else if bus.logTail ≤ bus.logHead then bus.logHead - bus.logTail
  else bus.logEntries - (bus.logTail - bus.logHead)

/-- Where slot `i` of the ring starts: `log_off + i * sizeof(copro_log_entry)`. -/
def logSlot (bus : CoproBus) (i : UInt32) : UInt32 := bus.logOff + i * 16

/-- Slot `i + 1`, or slot 0 past the last. -/
def logNext (bus : CoproBus) (i : UInt32) : UInt32 :=
  if bus.logEntries ≤ i + 1 then 0 else i + 1

/-- `log_push`: a full ring drops the new write and counts it. -/
def logPush (bus : CoproBus) (cycle addr value info : UInt32) : CoproBus :=
  if bus.logEntries = 0 then bus
  else
    let next := logNext bus bus.logHead
    if next = bus.logTail then { bus with logDropped := bus.logDropped + 1 }
    else
      let info := if bus.logDropped ≠ 0 then info ||| coproLogInfoDropped else info
      let slot := logSlot bus bus.logHead
      let bus := ctlSetWord bus slot cycle
      let bus := ctlSetWord bus (slot + 4) addr
      let bus := ctlSetWord bus (slot + 8) value
      let bus := ctlSetWord bus (slot + 12) info
      { bus with logHead := next, logDropped := 0 }

def logEntryAt (bus : CoproBus) (slot : UInt32) : CoproLogEntry where
  cycle := ctlWord bus slot
  addr := ctlWord bus (slot + 4)
  value := ctlWord bus (slot + 8)
  info := ctlWord bus (slot + 12)

/-- `copro_bus_log_pop`. -/
def coproBusLogPop (bus : CoproBus) : Option CoproLogEntry × CoproBus :=
  if bus.logEntries = 0 || bus.logTail = bus.logHead then (none, bus)
  else (some (logEntryAt bus (logSlot bus bus.logTail)),
    { bus with logTail := logNext bus bus.logTail })

/-! ## Accesses -/

/-- `ram_read`: card RAM, wrapping at its size. -/
def ramRead (bus : CoproBus) (addr : UInt32) : UInt8 :=
  if !bus.ramPresent || bus.ramSize = 0 then 0xff else bus.ram (addr % bus.ramSize)

/-- `ram_write`. -/
def ramWrite (bus : CoproBus) (addr : UInt32) (value : UInt8) : CoproBus :=
  if !bus.ramPresent || bus.ramSize = 0 then bus
  else { bus with ram := bus.ram.set (addr % bus.ramSize) value }

/-- `take_answer`: has the guest already answered this access?  Consumed if so. -/
def takeAnswer (bus : CoproBus) (addr : UInt32) (isWrite : Bool) : Option (UInt8 × CoproBus) :=
  if !bus.answerValid || bus.answerAddr ≠ addr || bus.answerIsWrite ≠ isWrite then none
  else some (bus.answerValue.toUInt8, { bus with answerValid := false })

/-- `ram_address`: where a region's data lies in card RAM. -/
def ramAddress (kind base offset addr : UInt32) : UInt32 :=
  if kind &&& coproRegionOffset ≠ 0 then offset + (addr - base) else addr

def CoproBus.waitFor (bus : CoproBus) (addr : UInt32) (isWrite isPort : Bool) (value : UInt32) :
    CoproBus :=
  { bus with stalled := true, waitAddr := addr, waitIsWrite := isWrite, waitIsPort := isPort,
             waitValue := value }

/-- `copro_bus_read` once no answer is waiting for the access: the decode proper. -/
def decodedRead (bus : CoproBus) (addr : UInt32) (isPort : Bool) :
    CoproBusResult × UInt8 × CoproBus :=
  match coproBusRegion bus addr isPort with
  | none => (.ok, if isPort then 0xff else ramRead bus addr, bus)
  | some entry =>
    let f := regionFields bus entry
    match coproRegionKind f.kind with
    | .ram | .rom | .log => (.ok, ramRead bus (ramAddress f.kind f.base f.latch addr), bus)
    | .latch =>
      let off := f.latch + (addr - f.base)
      (.ok, if bus.ctlPresent && off < bus.ctlSize then bus.ctl off else 0xff, bus)
    | .stall => (.stall, 0xff, bus.waitFor addr false isPort 0)
    | .unmapped => (.busError, 0xff, bus)

/-- `copro_bus_read`.  The source's `cycle` argument is unused. -/
def coproBusRead (bus : CoproBus) (addr : UInt32) (isPort : Bool) :
    CoproBusResult × UInt8 × CoproBus :=
  match takeAnswer bus addr false with
  | some (value, bus) => (.ok, value, bus)
  | none => decodedRead bus addr isPort

/-- `copro_bus_write` once no answer is waiting for the access. -/
def decodedWrite (bus : CoproBus) (addr : UInt32) (isPort : Bool) (cycle : UInt32)
    (value : UInt8) : CoproBusResult × CoproBus :=
  let info := if isPort then coproLogInfoPort else 0
  match coproBusRegion bus addr isPort with
  | none => (.ok, if isPort then bus else ramWrite bus addr value)
  | some entry =>
    let f := regionFields bus entry
    match coproRegionKind f.kind with
    | .ram => (.ok, ramWrite bus (ramAddress f.kind f.base f.latch addr) value)
    | .rom => (.ok, logPush bus cycle addr value.toUInt32 info)
    | .log =>
      let bus := ramWrite bus (ramAddress f.kind f.base f.latch addr) value
      (.ok, logPush bus cycle addr value.toUInt32 info)
    | .latch => (.ok, logPush bus cycle addr value.toUInt32 info)
    | .stall => (.stall, bus.waitFor addr true isPort value.toUInt32)
    | .unmapped => (.busError, bus)

/-- `copro_bus_write`. -/
def coproBusWrite (bus : CoproBus) (addr : UInt32) (isPort : Bool) (cycle : UInt32)
    (value : UInt8) : CoproBusResult × CoproBus :=
  match takeAnswer bus addr true with
  | some (_, bus) => (.ok, bus)
  | none => decodedWrite bus addr isPort cycle value

/-- `copro_bus_resume`: answer the waiting access; the answer is left for the retry to find. -/
def coproBusResume (bus : CoproBus) (value : UInt8) : UInt8 × CoproBus :=
  if !bus.stalled then (value, bus)
  else
    let waitValue := if bus.waitIsWrite then bus.waitValue else value.toUInt32
    (waitValue.toUInt8,
      { bus with stalled := false, waitValue := waitValue, answerValid := true,
                 answerAddr := bus.waitAddr, answerValue := waitValue,
                 answerIsWrite := bus.waitIsWrite })

/-! ## The hook -/

def CoproBusResult.toCpuMem : CoproBusResult → CpuMemResult
  | ok => .ok
  | stall => .stall
  | busError => .busError

def isPortAddr (addr : UInt32) : Bool := addr &&& cpuMemPort ≠ 0

def bareAddr (addr : UInt32) : UInt32 := addr &&& ~~~cpuMemPort

/-- `hook_read`. -/
def hookRead (bus : CoproBus) (addr : UInt32) : (CpuMemResult × UInt8) × CoproBus :=
  let (res, value, bus) := coproBusRead bus (bareAddr addr) (isPortAddr addr)
  ((res.toCpuMem, value), bus)

/-- `hook_write`, the core's cycle counter standing at `cycles`. -/
def hookWrite (bus : CoproBus) (addr : UInt32) (value : UInt8) (cycles : UInt64) :
    CpuMemResult × CoproBus :=
  let cycle := if bus.cycleSource then cycles.toUInt32 else 0
  let (res, bus) := coproBusWrite bus (bareAddr addr) (isPortAddr addr) cycle value
  (res.toCpuMem, bus)

end RpcEmu
