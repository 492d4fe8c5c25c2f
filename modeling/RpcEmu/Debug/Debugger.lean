import RpcEmu.Debug.Parser

/-!
# The debugger's state and everything that changes it

The debugger of `rpcemu.c`: breakpoints and watchpoints, pausing, stepping, traps, and the hooks the
processor calls.  The two cores look at it through one cached flag, `debugger_hook_active`, and call
the hooks only while it is set.

* What a hook reads of the machine is a record (`Cpu`), with the memory reads and the condition
  evaluator of `debugexpr` behind it.
* The trace ring is the list of its unread events, oldest first.
-/

namespace RpcEmu.Debugger

open DebugExpr

/-- `DebugPauseReason`. -/
inductive PauseReason
  | none | user | breakpoint | watchpoint | step | exception | swi | badMode | breakSwi
  deriving DecidableEq

/-- `DebugBreakpointInfo`. -/
structure Breakpoint where
  address : UInt32
  enabled : Bool := true
  oneShot : Bool := false
  ignoreCount : UInt32 := 0
  hitCount : UInt32 := 0
  evalErrors : UInt32 := 0
  condition : Option Text := .none
  deriving DecidableEq

/-- `DebugWatchpointInfo`. -/
structure Watchpoint where
  address : UInt32
  size : UInt32
  onRead : Bool
  onWrite : Bool
  logOnly : Bool
  deriving DecidableEq

/-- `TraceEventType`. -/
inductive TraceEventType
  | exception | swi | watchpoint
  deriving DecidableEq

/-- `DebugTraceEvent`. -/
structure TraceEvent where
  seq : UInt32
  type : TraceEventType
  pc : UInt32
  opcode : UInt32
  arg0 : UInt32
  arg1 : UInt32
  arg2 : UInt32
  deriving DecidableEq

/-- `DebugTraceConfig`. -/
structure TraceConfig where
  trapUndefined : Bool := false
  trapPrefetchAbort : Bool := false
  trapDataAbort : Bool := false
  logExceptions : Bool := false
  swiTraceEnabled : Bool := false
  swiTraceHalt : Bool := false
  stepSkipIrq : Bool := false
  stepSkipOs : Bool := false
  stepSkipSwi : Bool := false
  swiFilterMin : UInt32 := 0
  swiFilterMax : UInt32 := 0
  deriving DecidableEq

structure State where
  breakpoints : List Breakpoint := []
  watchpoints : List Watchpoint := []
  pauseRequested : Bool := false
  pendingReason : PauseReason := .none
  tempBpActive : Bool := false
  tempBpAddress : UInt32 := 0
  resumeSkipActive : Bool := false
  resumeSkipAddress : UInt32 := 0
  paused : Bool := false
  pauseReason : PauseReason := .none
  haltPc : UInt32 := 0
  haltOpcode : UInt32 := 0
  lastPc : UInt32 := 0
  lastOpcode : UInt32 := 0
  faultPc : UInt32 := 0
  faultFromPc : UInt32 := 0
  faultOpcode : UInt32 := 0
  faultPcValid : Bool := false
  hitAddress : UInt32 := 0
  hitValue : UInt32 := 0
  hitSize : UInt32 := 0
  hitIsWrite : Bool := false
  stepRemaining : UInt32 := 0
  stepActive : Bool := false
  trace : List TraceEvent := []
  traceDropped : UInt32 := 0
  traceSeq : UInt32 := 0
  traceConfig : TraceConfig := { swiFilterMax := 0xffffffff }
  swiTraceActive : Bool := false
  hookActive : Bool := false

structure Cpu where
  env : DebugExprEnv
  mode : UInt32
  pc : UInt32
  r15Mask : UInt32
  faultAddress : UInt32
  faultStatus : UInt32
  debugEnabled : Bool

/-- `mem_debug_read` of a word. -/
def Cpu.readWord (cpu : Cpu) (address : UInt32) : Option UInt32 := cpu.env.readMem address 4

/-- What `arm_decode` says of an instruction, as far as stepping asks. -/
structure InsnInfo where
  isCall : Bool
  isSwi : Bool
  isBranch : Bool
  isConditional : Bool
  branchTarget : Option UInt32

/-- `DEBUGGER_MAX_BREAKPOINTS`. -/
def maxBreakpoints : Nat := 64

/-- `DEBUGGER_MAX_WATCHPOINTS`. -/
def maxWatchpoints : Nat := 32

def traceCapacity : Nat := 4095

local instance registers_ne_zero : NeZero 16 := ⟨by decide⟩

section Debugger

variable (d : State)

/-- `debugger_compute_hook_active`. -/
def computeHookActive : Bool :=
  d.paused || d.pauseRequested || decide (0 < d.stepRemaining) || d.tempBpActive ||
    decide (0 < d.breakpoints.length) || decide (0 < d.watchpoints.length) ||
    (d.traceConfig.trapUndefined || d.traceConfig.trapPrefetchAbort ||
      d.traceConfig.trapDataAbort || d.traceConfig.swiTraceHalt)

/-- `debugger_refresh_hook_active`. -/
def refreshHookActive : State := { d with hookActive := computeHookActive d }

/-- `debugger_arm_resume_skip`. -/
def armResumeSkip : State :=
  if d.paused then { d with resumeSkipActive := true, resumeSkipAddress := d.haltPc } else d

/-- `debugger_reset_hit_info`. -/
def resetHitInfo : State :=
  { d with hitAddress := 0, hitValue := 0, hitSize := 0, hitIsWrite := false }

/-- `debugger_enter_pause`. -/
def enterPause (reason : PauseReason) (pc opcode : UInt32) : State :=
  refreshHookActive { d with
    paused := true, pauseReason := reason, haltPc := pc, haltOpcode := opcode,
    pauseRequested := false, pendingReason := .none, stepRemaining := 0, stepActive := false }

/-! ## Pausing and stepping -/

/-- `debugger_request_pause`. -/
def requestPause (reason : PauseReason) : State :=
  if d.paused then { d with pauseReason := reason }
  else refreshHookActive { d with pauseRequested := true, pendingReason := reason }

/-- `debugger_resume`. -/
def resume : State :=
  refreshHookActive (resetHitInfo { armResumeSkip d with
    paused := false, pauseRequested := false, pendingReason := .none, pauseReason := .none,
    stepRemaining := 0, stepActive := false, tempBpActive := false, faultFromPc := 0 })

/-- `debugger_single_step`. -/
def singleStep (instructionCount : UInt32) : State :=
  if instructionCount = 0 then d
  else refreshHookActive (resetHitInfo { armResumeSkip d with
    paused := false, pauseRequested := false, pendingReason := .none, pauseReason := .none,
    stepRemaining := instructionCount, stepActive := true, tempBpActive := false })

/-- `debugger_run_to_temp`. -/
def runToTemp (address : UInt32) : State :=
  refreshHookActive { resume d with tempBpActive := true, tempBpAddress := address }

/-- `debugger_step_over`; `info` is what the instruction at the PC decodes to, if it can be read. -/
def stepOver (cpu : Cpu) (info : Option InsnInfo) : State :=
  if d.paused then
    match info with
    | none => singleStep d 1
    | some info =>
      if info.isCall || info.isSwi then runToTemp d (cpu.pc + 4)
      else
        match info.branchTarget with
        | some target =>
          if info.isBranch && info.isConditional && decide (target ≤ cpu.pc) then
            runToTemp d (cpu.pc + 4)
          else singleStep d 1
        | none => singleStep d 1
  else d

/-- The second frame of `debugger_backtrace`, where `debugger_step_out` returns to: the link register
the frame pointer leads to.  A chain that ends or cannot be read has none. -/
def callerPc (cpu : Cpu) : Option UInt32 :=
  let fp := cpu.env.readReg 11
  if fp = 0 || fp &&& 3 != 0 then none
  else
    match cpu.readWord (fp - 4), cpu.readWord (fp - 8), cpu.readWord (fp - 12) with
    | some lr, some _, some _ => if lr &&& cpu.r15Mask = 0 then none else some (lr &&& cpu.r15Mask)
    | _, _, _ => none

/-- `debugger_step_out`. -/
def stepOut (cpu : Cpu) : State :=
  if d.paused then
    let target := (callerPc cpu).getD (cpu.env.readReg 14 &&& cpu.r15Mask)
    if target = 0 || target = cpu.pc then d else runToTemp d target
  else d

/-- `debugger_run_to`. -/
def runTo (address : UInt32) : State := if d.paused then runToTemp d address else d

/-! ## Breakpoints and watchpoints -/

/-- `debugger_clear_breakpoints`. -/
def clearBreakpoints : State := refreshHookActive { d with breakpoints := [] }

/-- `debugger_breakpoint_index`. -/
def breakpointIndex (address : UInt32) : Option Nat :=
  d.breakpoints.findIdx? fun bp => bp.address == address

/-- The condition kept of one that is asked for: no text is no condition, and a long one is cut to
the 63 characters there is room for. -/
def keptCondition : Option Text → Option Text
  | some (c :: cs) => some ((c :: cs).take 63)
  | _ => none

/-- `debugger_add_breakpoint_ex`. -/
def addBreakpointEx (address : UInt32) (condition : Option Text) (ignoreCount : UInt32)
    (oneShot : Bool) : State :=
  let bp : Breakpoint :=
    { address := address, oneShot := oneShot, ignoreCount := ignoreCount,
      condition := keptCondition condition }
  match breakpointIndex d address with
  | some i => refreshHookActive { d with breakpoints := d.breakpoints.set i bp }
  | none =>
    if maxBreakpoints ≤ d.breakpoints.length then d
    else refreshHookActive { d with breakpoints := d.breakpoints ++ [bp] }

/-- `debugger_remove_breakpoint`. -/
def removeBreakpoint (address : UInt32) : State :=
  match breakpointIndex d address with
  | some i => refreshHookActive { d with breakpoints := d.breakpoints.eraseIdx i }
  | none => d

/-- `debugger_set_breakpoint_enabled`. -/
def setBreakpointEnabled (address : UInt32) (enabled : Bool) : State :=
  match breakpointIndex d address with
  | some i => refreshHookActive { d with
      breakpoints := d.breakpoints.modify i fun bp => { bp with enabled := enabled } }
  | none => d

/-- `debugger_clear_watchpoints`. -/
def clearWatchpoints : State := refreshHookActive { d with watchpoints := [] }

/-- `debugger_watchpoint_index`. -/
def watchpointIndex (address size : UInt32) (onRead onWrite : Bool) : Option Nat :=
  d.watchpoints.findIdx? fun wp =>
    wp.address == address && wp.size == size && wp.onRead == onRead && wp.onWrite == onWrite

/-- `debugger_add_watchpoint`. -/
def addWatchpoint (address size : UInt32) (onRead onWrite logOnly : Bool) : State :=
  if size = 0 then d
  else
    match watchpointIndex d address size onRead onWrite with
    | some i => { d with watchpoints := d.watchpoints.modify i fun wp => { wp with logOnly := logOnly } }
    | none =>
      if maxWatchpoints ≤ d.watchpoints.length then d
      else refreshHookActive { d with
        watchpoints := d.watchpoints ++ [⟨address, size, onRead, onWrite, logOnly⟩] }

/-- `debugger_remove_watchpoint`. -/
def removeWatchpoint (address size : UInt32) (onRead onWrite : Bool) : State :=
  match watchpointIndex d address size onRead onWrite with
  | some i => refreshHookActive { d with watchpoints := d.watchpoints.eraseIdx i }
  | none => d

/-! ## The trace -/

/-- `debugger_trace_push`. -/
def tracePush (type : TraceEventType) (pc opcode arg0 arg1 arg2 : UInt32) : State :=
  let seq := d.traceSeq + 1
  let event : TraceEvent := ⟨seq, type, pc, opcode, arg0, arg1, arg2⟩
  if d.trace.length = traceCapacity then
    { d with trace := d.trace.tail ++ [event], traceDropped := d.traceDropped + 1, traceSeq := seq }
  else { d with trace := d.trace ++ [event], traceSeq := seq }

def traceIf (wanted : Bool) (type : TraceEventType) (pc opcode arg0 arg1 arg2 : UInt32) : State :=
  if wanted then tracePush d type pc opcode arg0 arg1 arg2 else d

/-- `debugger_set_trace_config`. -/
def setTraceConfig : Option TraceConfig → State
  | none => d
  | some cfg => refreshHookActive { d with
      traceConfig := cfg, swiTraceActive := cfg.swiTraceEnabled || cfg.swiTraceHalt }

/-- `debugger_drain_trace_events`, where there is somewhere to copy to. -/
def drainTraceEvents (max : Nat) : State :=
  { d with traceDropped := 0, trace := d.trace.drop max }

end Debugger

/-! ## The hooks -/

/-- `debugger_breakpoint_should_halt`, with the breakpoint as it is left. -/
def breakpointShouldHalt (cpu : Cpu) (bp : Breakpoint) : Bool × Breakpoint :=
  if bp.enabled then
    let bp := { bp with hitCount := bp.hitCount + 1 }
    match bp.condition with
    | none => spend bp
    | some text =>
      match debugexprEval (some text) (some cpu.env) with
      | .error _ => (false, { bp with evalErrors := bp.evalErrors + 1 })
      | .ok value => if value = 0 then (false, bp) else spend bp
  else (false, bp)
where
  /-- The ignore count is spent last. -/
  spend (bp : Breakpoint) : Bool × Breakpoint :=
    if 0 < bp.ignoreCount then (false, { bp with ignoreCount := bp.ignoreCount - 1 }) else (true, bp)

/-- `debugger_watchpoint_matches`, in 64 bits. -/
def watchpointMatches (wp : Watchpoint) (address size : UInt32) (isWrite : Bool) : Bool :=
  wp.size != 0 && (if isWrite then wp.onWrite else wp.onRead) &&
    !(decide (address.toNat + size.toNat - 1 < wp.address.toNat) ||
      decide (wp.address.toNat + wp.size.toNat - 1 < address.toNat))

section Hooks

variable (d : State) (cpu : Cpu)

/-- `debugger_step_skipping`. -/
def stepSkipping (pc : UInt32) : Bool :=
  d.traceConfig.stepSkipIrq && (cpu.mode &&& 0xf == 2 || cpu.mode &&& 0xf == 1) ||
    d.traceConfig.stepSkipOs && (decide (pc < 0x40) || decide (0xf0000000 ≤ pc))

def hitTempBp (pc : UInt32) : State :=
  if d.tempBpActive && d.tempBpAddress == pc then
    { d with tempBpActive := false, pauseRequested := true, pendingReason := .step }
  else d

def hitBreakpoint (skipBreakpoints : Bool) (pc : UInt32) : State :=
  if 0 < d.breakpoints.length && !skipBreakpoints then
    match breakpointIndex d pc with
    | none => d
    | some i =>
      match d.breakpoints[i]? with
      | none => d
      | some bp =>
        let (halts, bp) := breakpointShouldHalt cpu bp
        let d := { d with breakpoints := d.breakpoints.set i bp }
        if halts then
          let d := if bp.oneShot then removeBreakpoint d pc else d
          { d with pauseRequested := true, pendingReason := .breakpoint }
        else d
  else d

def pendingOrUser : PauseReason := if d.pendingReason = .none then .user else d.pendingReason

def takePause (pc opcode : UInt32) : Bool × State :=
  if d.pauseRequested then
    let reason := pendingOrUser d
    if reason = .step && stepSkipping d cpu pc then
      (false, refreshHookActive { d with
        pauseRequested := false, pendingReason := .none, stepRemaining := 1, stepActive := true })
    else if reason = .exception && d.faultPcValid then
      (true, { enterPause d reason d.faultPc d.faultOpcode with faultPcValid := false })
    else (true, enterPause d reason pc opcode)
  else (false, d)

/-- `debugger_instruction_hook`: whether the core stops, and the state. -/
def instructionHook (pc opcode : UInt32) : Bool × State :=
  let d := { d with lastPc := pc, lastOpcode := opcode }
  if d.paused then (true, d)
  else
    let d := { d with stepActive := decide (0 < d.stepRemaining) }
    let skipBreakpoints := d.resumeSkipActive && pc == d.resumeSkipAddress
    let d := { d with resumeSkipActive := false }
    takePause (hitBreakpoint (hitTempBp d pc) cpu skipBreakpoints pc) cpu pc opcode

/-- The loop of `debugger_memory_access`: log, or stop at the first watchpoint that halts. -/
def watch (address size : UInt32) (isWrite : Bool) (value : UInt32) : List Watchpoint → State → State
  | [], d => d
  | wp :: wps, d =>
    if watchpointMatches wp address size isWrite then
      if wp.logOnly then
        watch address size isWrite value wps (tracePush d .watchpoint (cpu.env.readReg 15) 0 address
          value ((size <<< 1) ||| (if isWrite then 1 else 0)))
      else
        { d with
          hitAddress := address, hitValue := value, hitSize := if 255 < size then 255 else size
          hitIsWrite := isWrite, pauseRequested := true, pendingReason := .watchpoint
          stepRemaining := 0, stepActive := false }
    else watch address size isWrite value wps d

/-- `debugger_memory_access`. -/
def memoryAccess (address size : UInt32) (isWrite : Bool) (value : UInt32) : State :=
  if d.watchpoints.length = 0 then d
  else if d.pauseRequested && d.pendingReason == .watchpoint then d
  else watch cpu address (if size = 0 then 1 else size) isWrite value d.watchpoints d

/-- `debugger_step_runs_the_swi_on`. -/
def stepRunsTheSwiOn (opcode : UInt32) : Bool × State :=
  if d.traceConfig.stepSkipSwi && opcode &&& 0x0f000000 == 0x0f000000 &&
      !(d.paused || d.pauseRequested) then
    (true, { d with tempBpActive := true, tempBpAddress := d.lastPc + 4 })
  else (false, d)

/-- `debugger_after_instruction`. -/
def afterInstruction (opcode : UInt32) : State :=
  let d :=
    if 0 < d.stepRemaining then
      let d := { d with stepRemaining := d.stepRemaining - 1 }
      if d.stepRemaining = 0 then
        let (runsOn, d) := stepRunsTheSwiOn d opcode
        if runsOn then d else { d with pauseRequested := true, pendingReason := .step }
      else d
    else d
  refreshHookActive { d with stepActive := decide (0 < d.stepRemaining) }

def trapOf (address : UInt32) : Option (UInt32 × Bool) :=
  if address = 0x08 then some (0, d.traceConfig.trapUndefined)
  else if address = 0x10 then some (1, d.traceConfig.trapPrefetchAbort)
  else if address = 0x14 then some (2, d.traceConfig.trapDataAbort)
  else none

def traceException (kind pc : UInt32) (trap : Bool) : State :=
  traceIf d (d.traceConfig.logExceptions || trap) .exception pc 0 kind
    (if kind = 2 then cpu.faultAddress else 0) (if kind = 2 then cpu.faultStatus else 0)

/-- `debugger_exception_hook`. -/
def exceptionHook (address pc : UInt32) : State :=
  match trapOf d address with
  | none => d
  | some (kind, trap) =>
    let d := traceException d cpu kind pc trap
    if trap && !d.paused && !d.pauseRequested then
      refreshHookActive { d with
        pauseRequested := true, pendingReason := .exception, faultPc := pc
        faultOpcode := if d.lastPc = pc then d.lastOpcode else 0
        faultFromPc := if kind = 1 ∧ d.lastPc ≠ pc then d.lastPc else 0
        faultPcValid := true }
    else d

/-- `debugger_swi_hook`. -/
def swiHook (swinum opcode : UInt32) : State :=
  if swinum < d.traceConfig.swiFilterMin || d.traceConfig.swiFilterMax < swinum then d
  else
    let d := traceIf d d.traceConfig.swiTraceEnabled .swi (cpu.env.readReg 15) opcode swinum
      (cpu.env.readReg 0) cpu.env.readCpsr
    if d.traceConfig.swiTraceHalt && !d.paused && !d.pauseRequested then
      refreshHookActive { d with pauseRequested := true, pendingReason := .swi }
    else d

/-- `debugger_bad_mode`: whether there was something to halt into. -/
def badMode (mode pc : UInt32) : Bool × State :=
  let d := tracePush d .exception pc 0 3 mode 0
  if cpu.debugEnabled then
    if d.paused then (true, d) else (true, enterPause d .badMode pc 0)
  else (false, d)

/-- `debugger_break_swi`. -/
def breakSwi (pc : UInt32) : Bool × State :=
  let d := tracePush d .swi pc 0 0x00ffffff (cpu.env.readReg 0) cpu.env.readCpsr
  if cpu.debugEnabled then
    if d.paused then (true, d) else (true, enterPause d .breakSwi pc 0xefffffff)
  else (false, d)

end Hooks

end RpcEmu.Debugger
