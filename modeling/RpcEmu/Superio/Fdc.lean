import RpcEmu.Lib.Runs
import Mathlib.Data.UInt
import Mathlib.Tactic.Common

/-!
# The floppy controller

The registers of `fdc.c`, its commands and its callback.  What the drives do is not in the model: the controller
calls them (`DiscCall`), and they call it back, with a byte, with an ID field, or with how a command has ended.

* **The digital output register** starts a reset with its bit 2, on an edge; but `fdc.dor`, which the edge is told
  by, is read there and written nowhere (`dor_step`).
* So a reset starts with every write that has the bit set, whatever was written before: `resets_on_edge_iff`.

A parameter that is past the array's end goes nowhere.  The snapshot is not in the model.
-/

namespace RpcEmu.Superio

open Runs

/-! ## The controller -/

/-- `FD_CMD_*`. -/
inductive FdCmd where
  | specify | senseDriveStatus | recalibrate | senseInterruptStatus | readIdFm | dumpreg | seek | configure
  | writeDataMfm | readDataMfm | readIdMfm | formatTrackMfm | verifyDataMfm
  deriving DecidableEq, Repr

def FdCmd.code : FdCmd → UInt8
  | specify => 0x03 | senseDriveStatus => 0x04 | recalibrate => 0x07 | senseInterruptStatus => 0x08
  | readIdFm => 0x0a | dumpreg => 0x0e | seek => 0x0f | configure => 0x13 | writeDataMfm => 0x45
  | readDataMfm => 0x46 | readIdMfm => 0x4a | formatTrackMfm => 0x4d | verifyDataMfm => 0x56

def fdCmds : List FdCmd :=
  [.specify, .senseDriveStatus, .recalibrate, .senseInterruptStatus, .readIdFm, .dumpreg, .seek, .configure,
    .writeDataMfm, .readDataMfm, .readIdMfm, .formatTrackMfm, .verifyDataMfm]

def FdCmd.ofCode (code : UInt8) : Option FdCmd := fdCmds.find? fun cmd => cmd.code == code

inductive DiscCall where
  | seek (drive : UInt8) (track : UInt8)
  | writesector (drive : UInt8) (sector : Nat) (track side : UInt8) (density : Nat)
  | readsector (drive : UInt8) (sector : Nat) (track side : UInt8) (density : Nat)
  | readaddress (drive track side : UInt8) (density : Nat)
  | format (drive track side : UInt8) (density : Nat)
  | stop (drive : UInt8)
  deriving DecidableEq, Repr

/-- `fdc`, with `fdccallback`, `motoron` and `disc_drivesel`, and its bits of the interrupt controller.  The last
four fields are records that nothing here reads: the calls to the drives, whether `fatal` has ended it all, and for
the digital output register what was last written to it and how many resets it has started. -/
structure Fdc where
  dor : UInt8
  reset : Bool
  status : UInt8
  incommand : Bool
  command : UInt8
  st0 : UInt8
  st1 : UInt8
  st2 : UInt8
  st3 : UInt8
  track : UInt8
  sector : Nat
  side : UInt8
  params : Nat
  curparam : Nat
  parameters : Vector UInt8 10
  dmadat : UInt8
  rate : UInt32
  results : Vector UInt8 16
  resultRp : Nat
  resultWp : Nat
  drive : UInt8
  density : Nat
  tc : Bool
  dataReady : Bool
  written : Bool
  inRead : Bool
  fdccallback : Int
  motoron : UInt32
  drivesel : Nat
  irq : Bool
  dma : Bool
  indexIrq : Bool
  discCalls : List DiscCall
  stopped : Bool
  lastDor : UInt32
  resets : Nat

def fdcStart : Fdc where
  dor := 0
  reset := false
  status := 0
  incommand := false
  command := 0
  st0 := 0
  st1 := 0
  st2 := 0
  st3 := 0
  track := 0
  sector := 0
  side := 0
  params := 0
  curparam := 0
  parameters := Vector.replicate 10 0
  dmadat := 0
  rate := 0
  results := Vector.replicate 16 0
  resultRp := 0
  resultWp := 0
  drive := 0
  density := 0
  tc := false
  dataReady := false
  written := false
  inRead := false
  fdccallback := 0
  motoron := 0
  drivesel := 0
  irq := false
  dma := false
  indexIrq := false
  discCalls := []
  stopped := false
  lastDor := 0
  resets := 0

def Fdc.param (s : Fdc) (i : Nat) : UInt8 := s.parameters.toList.getD i 0

/-- `fdcsend`. -/
def fdcsend (s : Fdc) (val : UInt8) : Fdc :=
  { s with results := s.results.setIfInBounds (s.resultWp % 16) val, resultWp := s.resultWp + 1 }

def fdcsendAll (s : Fdc) (vals : List UInt8) : Fdc := vals.foldl fdcsend s

def Fdc.call (s : Fdc) (call : DiscCall) : Fdc := { s with discCalls := s.discCalls ++ [call] }

/-- `fdc_end_command`. -/
def fdcEndCommand (s : Fdc) : Fdc :=
  { s with status := 0xD0, incommand := false, params := 0, fdccallback := 0, irq := true }

def Fdc.selected (s : Fdc) : Fdc :=
  { s with st0 := s.param 0 &&& 7, st1 := 0, st2 := 0, drive := s.param 0 &&& 1 }

def Fdc.addressed (s : Fdc) : Fdc :=
  { s.selected with track := s.param 1, side := s.param 2, sector := (s.param 3).toNat }

def startCommand (s : Fdc) : Fdc :=
  let s := { s with status := s.status &&& ~~~0x80, tc := false, dataReady := false, inRead := false }
  match FdCmd.ofCode s.command with
  | some .specify | some .senseDriveStatus | some .configure => { s with fdccallback := 100 }
  | some .recalibrate =>
    { s with fdccallback := 500, status := s.status ||| 1 }.call (.seek (s.param 0 &&& 1) 0)
  | some .seek =>
    { s with fdccallback := 500, status := s.status ||| 1 }.call (.seek (s.param 0 &&& 1) (s.param 1))
  | some .writeDataMfm =>
    let s := s.addressed
    { s.call (.writesector s.drive s.sector s.track s.side s.density) with dma := true }
  | some .readDataMfm =>
    let s := { s with inRead := true }.addressed
    s.call (.readsector s.drive s.sector s.track s.side s.density)
  | some .verifyDataMfm =>
    let s := s.addressed
    s.call (.readsector s.drive s.sector s.track s.side s.density)
  | some .readIdMfm =>
    let s := s.selected
    s.call (.readaddress s.drive s.track s.side s.density)
  | some .readIdFm => { s.selected with fdccallback := 4000 }
  | some .formatTrackMfm =>
    let s := { s.selected with side := (s.selected.st0 >>> 2) &&& 1 }
    s.call (.format s.drive s.track s.side s.density)
  | _ => s

def takeParameter (s : Fdc) (val : UInt32) : Fdc :=
  let s := { s with parameters := s.parameters.setIfInBounds s.curparam val.toUInt8, curparam := s.curparam + 1 }
  if s.curparam = s.params then startCommand s else s

def Fdc.expect (s : Fdc) (params : Nat) (status : UInt8) : Fdc :=
  { s with params := params, curparam := 0, status := status }

def takeCommand (s : Fdc) (val : UInt32) : Fdc :=
  if s.incommand then { s with stopped := true }
  else
    let s := { s with incommand := true, command := val.toUInt8 }
    match FdCmd.ofCode s.command with
    | some .specify | some .seek => s.expect 2 0x90
    | some .senseDriveStatus | some .recalibrate | some .readIdFm | some .readIdMfm => s.expect 1 0x90
    | some .senseInterruptStatus => { s with fdccallback := 100, status := 0x10 }
    | some .dumpreg =>
      { fdcsend { s with st0 := 0x80 } 0x80 with
        irq := true, incommand := false, fdccallback := 0, status := 0x80 }
    | some .configure => s.expect 3 0x90
    | some .writeDataMfm | some .readDataMfm | some .verifyDataMfm => s.expect 8 0x90
    | some .formatTrackMfm => s.expect 5 0x80
    | none => { s with stopped := true }

def writeDor (s : Fdc) (val : UInt32) : Fdc :=
  let s := { s with lastDor := val }
  let s := if val &&& 4 ≠ 0 ∧ s.dor &&& 4 = 0 then
      { s with reset := true, fdccallback := 500, resets := s.resets + 1 }
    else s
  let s := if val &&& 4 = 0 then { s with status := 0x80 } else s
  { s with
    motoron := val &&& 0x30
    drivesel := if val &&& 0x10 ≠ 0 then 0 else if val &&& 0x20 ≠ 0 then 1 else s.drivesel }

def writeCcr (s : Fdc) (val : UInt32) : Fdc :=
  { s with rate := val &&& 3, density := if val &&& 3 = 0 then 2 else if val &&& 3 = 3 then 3 else 1 }

/-- `fdc_write`. -/
def fdcWrite (s : Fdc) (addr val : UInt32) : Fdc :=
  if addr = 0x3f2 then writeDor s val
  else if addr = 0x3f5 then if s.params ≠ 0 then takeParameter s val else takeCommand s val
  else if addr = 0x3f7 then writeCcr s val
  else s

/-- `fdc_read`. -/
def fdcRead (s : Fdc) (addr : UInt32) : UInt8 × Fdc :=
  if addr = 0x3f4 then (s.status, { s with irq := false })
  else if addr = 0x3f5 then
    let data := s.results.toList.getD (s.resultRp % 16) 0
    let s := if s.resultRp ≠ s.resultWp then { s with resultRp := s.resultRp + 1 } else s
    (data, { s with status := if s.resultRp = s.resultWp then 0x80 else s.status ||| 0xc0 })
  else (0, s)

/-! ## The callback -/

def Fdc.idle (s : Fdc) : Fdc := { s with incommand := false, params := 0, curparam := 0 }

def Fdc.transferred (s : Fdc) : List UInt8 :=
  [s.st0, s.st1, s.st2, s.track, if s.param 0 &&& 4 ≠ 0 then 1 else 0, .ofNat s.sector, s.param 4]

def nextSector (s : Fdc) (call : Fdc → Fdc) : Fdc :=
  let s := { s with sector := s.sector + 1 }
  let s := if (s.param 5).toNat < s.sector then { s with tc := true } else s
  if s.tc then { (fdcsendAll s s.transferred).idle with status := 0xD0, irq := true, fdccallback := 0 }
  else call s

/-- `fdc_callback`. -/
def fdcCallback (s : Fdc) : Fdc :=
  if s.reset then
    { s.idle with reset := false, status := 0x80, st0 := 0xc0, track := 0, rate := 2, irq := true }
  else
    match FdCmd.ofCode s.command with
    | some .specify | some .configure => { s.idle with status := 0x80 }
    | some .senseDriveStatus =>
      let st3 := (s.param 0 &&& 7) ||| 0x28
      let st3 := if s.track = 0 then st3 ||| 0x10 else st3
      { fdcsend { s with st3 := st3 } st3 |>.idle with status := 0xD0, irq := true }
    | some .recalibrate => { s.idle with track := 0, status := 0x80, st0 := 0x20, irq := true }
    | some .senseInterruptStatus =>
      { fdcsendAll s [s.st0, s.track] with status := 0xD0, irq := true, incommand := false }
    | some .seek => { s.idle with track := s.param 1, status := 0x80, st0 := 0x20, irq := true }
    | some .writeDataMfm =>
      nextSector s fun s => { s.call (.writesector s.drive s.sector s.track s.side s.density) with dma := true }
    | some .readDataMfm => nextSector s fun s => s.call (.readsector s.drive s.sector s.track s.side s.density)
    | some .readIdFm =>
      { s.idle with st0 := 0x40 ||| (s.param 0 &&& 7), st1 := 1, st2 := 1, irq := true }
    | some .formatTrackMfm =>
      { (fdcsendAll s [s.st0, s.st1, s.st2, 0, 0, 0, 0]).idle with status := 0xD0, irq := true }
    | some .verifyDataMfm =>
      let s := { s with sector := (if s.param 0 &&& 0x80 ≠ 0 then s.param 7 else s.param 5).toNat }
      { (fdcsendAll s s.transferred).idle with status := 0xD0, irq := true }
    | _ => s

def fdcTick (s : Fdc) : Fdc :=
  if s.fdccallback = 0 then s
  else if s.fdccallback - 100 ≤ 0 then fdcCallback { s with fdccallback := 0 }
  else { s with fdccallback := s.fdccallback - 100 }

/-! ## The drives -/

def Fdc.failed (s : Fdc) : UInt8 := 0x40 ||| ((if s.side ≠ 0 then 4 else 0) ||| s.drive)

/-- `fdc_overrun`. -/
def fdcOverrun (s : Fdc) : Fdc :=
  fdcEndCommand (fdcsendAll (s.call (.stop s.drive)) [s.failed, 0x10, 0, s.track, s.side, .ofNat s.sector, s.param 4])

/-- `fdc_data`. -/
def fdcData (s : Fdc) (dat : UInt8) : Fdc :=
  if s.tc || !s.inRead then s
  else if s.dataReady then fdcOverrun s
  else { s with dmadat := dat, dataReady := true, dma := true }

/-- `fdc_finishread`. -/
def fdcFinishread (s : Fdc) : Fdc := { s with fdccallback := 25 }

/-- `fdc_notfound`. -/
def fdcNotfound (s : Fdc) : Fdc := fdcEndCommand (fdcsendAll s [s.failed, 5, 0, 0, 0, 0, 0])

/-- `fdc_datacrcerror`. -/
def fdcDatacrcerror (s : Fdc) : Fdc :=
  fdcEndCommand (fdcsendAll s [s.failed, 0x20, 0x20, s.track, s.side, .ofNat s.sector, s.param 4])

/-- `fdc_headercrcerror`. -/
def fdcHeadercrcerror (s : Fdc) : Fdc :=
  fdcEndCommand (fdcsendAll s [s.failed, 0x20, 0, s.track, s.side, .ofNat s.sector, s.param 4])

/-- `fdc_writeprotect`. -/
def fdcWriteprotect (s : Fdc) : Fdc := fdcEndCommand (fdcsendAll s [s.failed, 0x02, 0, 0, 0, 0, 0])

/-- `fdc_getdata`: none for the `-1`. -/
def fdcGetdata (s : Fdc) (last : Bool) : Option UInt8 × Fdc :=
  if !s.written && !s.tc then (none, s)
  else (some s.dmadat, { s with dma := s.dma || (!last && !s.tc), written := false })

/-- `fdc_sectorid`. -/
def fdcSectorid (s : Fdc) (track side sector size : UInt8) : Fdc :=
  fdcEndCommand (fdcsendAll s [(if s.side ≠ 0 then 4 else 0) ||| s.drive, 0, 0, track, side, sector, size])

/-- `fdc_indexpulse`. -/
def fdcIndexpulse (s : Fdc) : Fdc := { s with indexIrq := true }

def fdcDma (s : Fdc) (addr : UInt32) : Fdc :=
  let s := { s with dma := false }
  if addr = 0x302a000 then { s with tc := true, st0 := 0 } else s

/-- `fdc_dma_read`. -/
def fdcDmaRead (s : Fdc) (addr : UInt32) : UInt8 × Fdc := (s.dmadat, fdcDma { s with dataReady := false } addr)

/-- `fdc_dma_write`. -/
def fdcDmaWrite (s : Fdc) (addr : UInt32) (val : UInt8) : Fdc := { fdcDma s addr with written := true, dmadat := val }

/-! ## Runs -/

inductive FdcEvent where
  | write (addr val : UInt32)
  | read (addr : UInt32)
  | tick
  | data (dat : UInt8)
  | finishread
  | notfound
  | datacrcerror
  | headercrcerror
  | writeprotect
  | getdata (last : Bool)
  | sectorid (track side sector size : UInt8)
  | indexpulse
  | dmaRead (addr : UInt32)
  | dmaWrite (addr : UInt32) (val : UInt8)
  deriving DecidableEq, Repr

def respond (s : Fdc) : FdcEvent → Fdc
  | .write addr val => fdcWrite s addr val
  | .read addr => (fdcRead s addr).2
  | .tick => fdcTick s
  | .data dat => fdcData s dat
  | .finishread => fdcFinishread s
  | .notfound => fdcNotfound s
  | .datacrcerror => fdcDatacrcerror s
  | .headercrcerror => fdcHeadercrcerror s
  | .writeprotect => fdcWriteprotect s
  | .getdata last => (fdcGetdata s last).2
  | .sectorid track side sector size => fdcSectorid s track side sector size
  | .indexpulse => fdcIndexpulse s
  | .dmaRead addr => (fdcDmaRead s addr).2
  | .dmaWrite addr val => fdcDmaWrite s addr val

/-- Nothing happens any more once `fatal` has ended it. -/
def fdcStep (s : Fdc) (e : FdcEvent) : Fdc := if s.stopped then s else respond s e

/-- The command and its progress are the same. -/
def SameCommand (s t : Fdc) : Prop :=
  t.reset = s.reset ∧ t.incommand = s.incommand ∧ t.command = s.command ∧ t.params = s.params ∧
    t.curparam = s.curparam ∧ t.parameters = s.parameters ∧ t.fdccallback = s.fdccallback

/-- **What a write of the register is to do**: start a reset exactly on the edge of bit 2, and let the command in
progress be where the bit stays as it was. -/
def ResetsOnEdge (s : Fdc) : FdcEvent → Prop
  | .write 0x3f2 val =>
    s.stopped = false →
      ((fdcStep s (.write 0x3f2 val)).resets ≠ s.resets ↔ val &&& 4 ≠ 0 ∧ s.lastDor &&& 4 = 0) ∧
        (val &&& 4 = s.lastDor &&& 4 → SameCommand s (fdcStep s (.write 0x3f2 val)))
  | _ => True

/-- A running controller is not sent the reset bit it has already. -/
def BitNotSetAgain (s : Fdc) : FdcEvent → Prop
  | .write 0x3f2 val => s.stopped = false → ¬(val &&& 4 ≠ 0 ∧ s.lastDor &&& 4 ≠ 0)
  | _ => True

/-! ## The register that is not kept -/

section Dor

variable (s : Fdc)

@[simp] lemma dor_call (call : DiscCall) : (s.call call).dor = s.dor := rfl

@[simp] lemma dor_selected : s.selected.dor = s.dor := rfl

@[simp] lemma dor_addressed : s.addressed.dor = s.dor := rfl

@[simp] lemma dor_idle : s.idle.dor = s.dor := rfl

@[simp] lemma dor_fdcsend (val : UInt8) : (fdcsend s val).dor = s.dor := rfl

@[simp] lemma dor_fdcsendAll (vals : List UInt8) : (fdcsendAll s vals).dor = s.dor := by
  induction vals generalizing s with
  | nil => rfl
  | cons val vals ih => exact ih (fdcsend s val)

@[simp] lemma dor_fdcEndCommand : (fdcEndCommand s).dor = s.dor := rfl

lemma dor_startCommand : (startCommand s).dor = s.dor := by
  unfold startCommand
  dsimp only
  split <;> rfl

lemma dor_takeParameter (val : UInt32) : (takeParameter s val).dor = s.dor := by
  unfold takeParameter
  dsimp only
  split
  · exact dor_startCommand _
  · rfl

lemma dor_takeCommand (val : UInt32) : (takeCommand s val).dor = s.dor := by
  unfold takeCommand
  split
  · rfl
  · dsimp only
    split <;> rfl

lemma dor_writeDor (val : UInt32) : (writeDor s val).dor = s.dor := by
  unfold writeDor
  dsimp only
  split_ifs <;> rfl

lemma dor_fdcWrite (addr val : UInt32) : (fdcWrite s addr val).dor = s.dor := by
  unfold fdcWrite
  split_ifs
  · exact dor_writeDor s val
  · exact dor_takeParameter s val
  · exact dor_takeCommand s val
  · rfl
  · rfl

lemma dor_fdcRead (addr : UInt32) : (fdcRead s addr).2.dor = s.dor := by
  unfold fdcRead
  dsimp only
  split_ifs <;> rfl

lemma dor_nextSector {call : Fdc → Fdc} (hcall : ∀ s, (call s).dor = s.dor) : (nextSector s call).dor = s.dor := by
  unfold nextSector
  dsimp only
  split_ifs <;> simp [hcall]

lemma dor_fdcCallback : (fdcCallback s).dor = s.dor := by
  unfold fdcCallback
  split
  · rfl
  · split
    next => rfl
    next => rfl
    next => rfl
    next => rfl
    next => simp only [dor_fdcsendAll]
    next => rfl
    next => exact dor_nextSector s fun _ => rfl
    next => exact dor_nextSector s fun _ => rfl
    next => rfl
    next => simp only [dor_idle, dor_fdcsendAll]
    next => simp only [dor_idle, dor_fdcsendAll]
    next => rfl

lemma dor_respond (e : FdcEvent) : (respond s e).dor = s.dor := by
  cases e with
  | write addr val => exact dor_fdcWrite s addr val
  | read addr => exact dor_fdcRead s addr
  | tick =>
    rw [respond, fdcTick]
    split_ifs
    · rfl
    · exact dor_fdcCallback _
    · rfl
  | data dat =>
    rw [respond, fdcData]
    split_ifs
    · rfl
    · simp [fdcOverrun]
    · rfl
  | finishread => rfl
  | notfound => simp [respond, fdcNotfound]
  | datacrcerror => simp [respond, fdcDatacrcerror]
  | headercrcerror => simp [respond, fdcHeadercrcerror]
  | writeprotect => simp [respond, fdcWriteprotect]
  | getdata last =>
    rw [respond, fdcGetdata]
    split <;> rfl
  | sectorid track side sector size => simp [respond, fdcSectorid]
  | indexpulse => rfl
  | dmaRead addr =>
    rw [respond, fdcDmaRead, fdcDma]
    dsimp only
    split <;> rfl
  | dmaWrite addr val =>
    rw [respond, fdcDmaWrite, fdcDma]
    dsimp only
    split <;> rfl

/-- **Nothing writes `fdc.dor`.** -/
lemma dor_step (e : FdcEvent) : (fdcStep s e).dor = s.dor := by
  unfold fdcStep
  split
  · rfl
  · exact dor_respond s e

end Dor

/-! ## The edge -/

variable {s : Fdc}

lemma resets_writeDor (hdor : s.dor = 0) (val : UInt32) : (writeDor s val).resets ≠ s.resets ↔ val &&& 4 ≠ 0 := by
  unfold writeDor
  dsimp only
  by_cases hval : val &&& 4 = 0
  · simp [hval]
  · simp [hval, hdor]

lemma sameCommand_writeDor {val : UInt32} (hval : val &&& 4 = 0) : SameCommand s (writeDor s val) := by
  unfold SameCommand writeDor
  simp [hval]

/-- **One write** does what it is to just where the bit is not set again. -/
lemma resetsOnEdge_iff (hdor : s.dor = 0) (e : FdcEvent) : ResetsOnEdge s e ↔ BitNotSetAgain s e := by
  unfold ResetsOnEdge BitNotSetAgain
  split
  next val =>
    refine imp_congr_right fun hstopped => ?_
    have hstep : fdcStep s (.write 0x3f2 val) = writeDor s val := by
      rw [fdcStep, hstopped]
      rfl
    rw [hstep, resets_writeDor hdor]
    constructor
    · rintro ⟨hedge, -⟩ ⟨hval, hlast⟩
      exact hlast (hedge.mp hval).2
    · intro hno
      have hclear : val &&& 4 ≠ 0 → s.lastDor &&& 4 = 0 := fun hval => by_contra fun hlast => hno ⟨hval, hlast⟩
      refine ⟨⟨fun hval => ⟨hval, hclear hval⟩, And.left⟩, fun hsame => sameCommand_writeDor ?_⟩
      by_contra hval
      exact hval (hsame.trans (hclear hval))
  · exact Iff.rfl

/-- **When the controller resets on the edge only**: in the runs, whatever else happens in them, in which no write
of the register sets bit 2 after one that has it set. -/
theorem resets_on_edge_iff (es : List FdcEvent) :
    Along fdcStep ResetsOnEdge fdcStart es ↔ Along fdcStep BitNotSetAgain fdcStart es := by
  symm
  refine along_iff_of_inv (I := fun s => s.dor = 0) ?_ ?_ es fdcStart rfl
  · intro s e hdor _
    exact (dor_step s e).trans hdor
  · intro s e hdor
    exact (resetsOnEdge_iff hdor e).symm

def duringRead : List FdcEvent :=
  [.write 0x3f2 0x14, .tick, .tick, .tick, .tick, .tick] ++
    ([0x46, 0, 0, 0, 1, 2, 5, 0x1b, 0xff].map fun val => FdcEvent.write 0x3f5 val) ++
    [.data 0xe5, .dmaRead 0x3020000]

theorem not_resets_on_edge :
    ¬Along fdcStep ResetsOnEdge fdcStart (duringRead ++ [.write 0x3f2 0x34]) ∧
      (exec fdcStep fdcStart duringRead).incommand = true ∧
        (exec fdcStep fdcStart (duringRead ++ .write 0x3f2 0x34 :: List.replicate 5 .tick)).incommand = false ∧
          (exec fdcStep fdcStart (duringRead ++ .write 0x3f2 0x34 :: List.replicate 5 .tick)).resultWp = 0 := by
  refine ⟨fun hall => ?_, by decide, by decide, by decide⟩
  rw [along_append, along_cons] at hall
  exact absurd ((hall.2.1 (by decide)).1.mp (by decide)).2 (by decide)

end RpcEmu.Superio
