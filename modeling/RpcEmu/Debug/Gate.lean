import RpcEmu.Debug.Debugger
import RpcEmu.Lib.Runs

/-!
# The debugger's fast gate

`debugger_hook_active` caches `debugger_compute_hook_active`, and every operation is to refresh it for
itself.  Most end with a refresh.  The others are right for a reason: they change nothing the
condition reads, or, like `debugger_memory_access`, they change it only where it was already true.

**Fresh** — the cached flag is the condition.
-/

namespace RpcEmu.Debugger

open DebugExpr

inductive Op
  | requestPause (reason : PauseReason)
  | resume
  | singleStep (instructionCount : UInt32)
  | stepOver (cpu : Cpu) (info : Option InsnInfo)
  | stepOut (cpu : Cpu)
  | runTo (address : UInt32)
  | clearBreakpoints
  | addBreakpointEx (address : UInt32) (condition : Option Text) (ignoreCount : UInt32)
      (oneShot : Bool)
  | removeBreakpoint (address : UInt32)
  | setBreakpointEnabled (address : UInt32) (enabled : Bool)
  | clearWatchpoints
  | addWatchpoint (address size : UInt32) (onRead onWrite logOnly : Bool)
  | removeWatchpoint (address size : UInt32) (onRead onWrite : Bool)
  | setTraceConfig (cfg : Option TraceConfig)
  | drainTraceEvents (max : Nat)
  | instructionHook (cpu : Cpu) (pc opcode : UInt32)
  | afterInstruction (opcode : UInt32)
  | memoryAccess (cpu : Cpu) (address size : UInt32) (isWrite : Bool) (value : UInt32)
  | exceptionHook (cpu : Cpu) (address pc : UInt32)
  | swiHook (cpu : Cpu) (swinum opcode : UInt32)
  | badMode (cpu : Cpu) (mode pc : UInt32)
  | breakSwi (cpu : Cpu) (pc : UInt32)

def apply (d : State) : Op → State
  | .requestPause reason => requestPause d reason
  | .resume => resume d
  | .singleStep n => singleStep d n
  | .stepOver cpu info => stepOver d cpu info
  | .stepOut cpu => stepOut d cpu
  | .runTo address => runTo d address
  | .clearBreakpoints => clearBreakpoints d
  | .addBreakpointEx address condition ignoreCount oneShot =>
    addBreakpointEx d address condition ignoreCount oneShot
  | .removeBreakpoint address => removeBreakpoint d address
  | .setBreakpointEnabled address enabled => setBreakpointEnabled d address enabled
  | .clearWatchpoints => clearWatchpoints d
  | .addWatchpoint address size onRead onWrite logOnly =>
    addWatchpoint d address size onRead onWrite logOnly
  | .removeWatchpoint address size onRead onWrite => removeWatchpoint d address size onRead onWrite
  | .setTraceConfig cfg => setTraceConfig d cfg
  | .drainTraceEvents max => drainTraceEvents d max
  | .instructionHook cpu pc opcode => (instructionHook d cpu pc opcode).2
  | .afterInstruction opcode => afterInstruction d opcode
  | .memoryAccess cpu address size isWrite value => memoryAccess d cpu address size isWrite value
  | .exceptionHook cpu address pc => exceptionHook d cpu address pc
  | .swiHook cpu swinum opcode => swiHook d cpu swinum opcode
  | .badMode cpu mode pc => (badMode d cpu mode pc).2
  | .breakSwi cpu pc => (breakSwi d cpu pc).2

/-- **The cached flag is the condition.** -/
def Fresh (d : State) : Prop := d.hookActive = computeHookActive d

section Gate

variable {d d' : State} {cpu : Cpu}

lemma fresh_refresh (d : State) : Fresh (refreshHookActive d) := rfl

lemma Fresh.congr (h : Fresh d) (hhook : d'.hookActive = d.hookActive)
    (hcompute : computeHookActive d' = computeHookActive d) : Fresh d' := by
  rw [Fresh, hhook, hcompute]
  exact h

lemma fresh_enterPause (d : State) (reason : PauseReason) (pc opcode : UInt32) :
    Fresh (enterPause d reason pc opcode) := fresh_refresh _

lemma Fresh.requestPause (h : Fresh d) (reason : PauseReason) : Fresh (requestPause d reason) := by
  unfold Debugger.requestPause
  split
  · exact h
  · exact fresh_refresh _

lemma fresh_resume (d : State) : Fresh (resume d) := fresh_refresh _

lemma Fresh.singleStep (h : Fresh d) (n : UInt32) : Fresh (singleStep d n) := by
  unfold Debugger.singleStep
  split
  · exact h
  · exact fresh_refresh _

lemma fresh_runToTemp (d : State) (address : UInt32) : Fresh (runToTemp d address) := fresh_refresh _

lemma Fresh.stepOver (h : Fresh d) (cpu : Cpu) (info : Option InsnInfo) :
    Fresh (stepOver d cpu info) := by
  unfold Debugger.stepOver
  split
  · split
    · exact h.singleStep 1
    · split
      · exact fresh_runToTemp d _
      · split
        · split
          · exact fresh_runToTemp d _
          · exact h.singleStep 1
        · exact h.singleStep 1
  · exact h

lemma Fresh.stepOut (h : Fresh d) (cpu : Cpu) : Fresh (stepOut d cpu) := by
  unfold Debugger.stepOut
  split
  · simp only
    split
    · exact h
    · exact fresh_runToTemp d _
  · exact h

lemma Fresh.runTo (h : Fresh d) (address : UInt32) : Fresh (runTo d address) := by
  unfold Debugger.runTo
  split
  · exact fresh_runToTemp d address
  · exact h

/-! ## Breakpoints and watchpoints -/

lemma Fresh.addBreakpointEx (h : Fresh d) (address : UInt32) (condition : Option Text)
    (ignoreCount : UInt32) (oneShot : Bool) :
    Fresh (addBreakpointEx d address condition ignoreCount oneShot) := by
  simp only [Debugger.addBreakpointEx]
  split
  · exact fresh_refresh _
  · split
    · exact h
    · exact fresh_refresh _

lemma Fresh.removeBreakpoint (h : Fresh d) (address : UInt32) :
    Fresh (removeBreakpoint d address) := by
  unfold Debugger.removeBreakpoint
  split
  · exact fresh_refresh _
  · exact h

lemma Fresh.setBreakpointEnabled (h : Fresh d) (address : UInt32) (enabled : Bool) :
    Fresh (setBreakpointEnabled d address enabled) := by
  unfold Debugger.setBreakpointEnabled
  split
  · exact fresh_refresh _
  · exact h

lemma Fresh.addWatchpoint (h : Fresh d) (address size : UInt32) (onRead onWrite logOnly : Bool) :
    Fresh (addWatchpoint d address size onRead onWrite logOnly) := by
  unfold Debugger.addWatchpoint
  split
  · exact h
  · split
    · refine h.congr rfl ?_
      simp only [computeHookActive, List.length_modify]
    · split
      · exact h
      · exact fresh_refresh _

lemma Fresh.removeWatchpoint (h : Fresh d) (address size : UInt32) (onRead onWrite : Bool) :
    Fresh (removeWatchpoint d address size onRead onWrite) := by
  unfold Debugger.removeWatchpoint
  split
  · exact fresh_refresh _
  · exact h

lemma Fresh.setTraceConfig (h : Fresh d) (cfg : Option TraceConfig) :
    Fresh (setTraceConfig d cfg) := by
  cases cfg with
  | none => exact h
  | some cfg => exact fresh_refresh _

/-! ## The hooks -/

lemma Fresh.tracePush (h : Fresh d) (type : TraceEventType) (pc opcode arg0 arg1 arg2 : UInt32) :
    Fresh (tracePush d type pc opcode arg0 arg1 arg2) := by
  simp only [Debugger.tracePush]
  split <;> exact h.congr rfl rfl

lemma Fresh.traceIf (h : Fresh d) (wanted : Bool) (type : TraceEventType)
    (pc opcode arg0 arg1 arg2 : UInt32) : Fresh (traceIf d wanted type pc opcode arg0 arg1 arg2) := by
  unfold Debugger.traceIf
  split
  · exact h.tracePush type pc opcode arg0 arg1 arg2
  · exact h

lemma Fresh.takePause (h : d.pauseRequested = false → Fresh d) (cpu : Cpu) (pc opcode : UInt32) :
    Fresh (takePause d cpu pc opcode).2 := by
  simp only [Debugger.takePause]
  split
  · split
    · exact fresh_refresh _
    · split
      · exact (fresh_enterPause d (pendingOrUser d) d.faultPc d.faultOpcode).congr rfl rfl
      · exact fresh_enterPause d (pendingOrUser d) pc opcode
  · rename_i hp
    exact h (by simpa using hp)

lemma Fresh.hitBreakpoint (h : d.pauseRequested = false → Fresh d) (cpu : Cpu) (skip : Bool)
    (pc : UInt32) (hp : (hitBreakpoint d cpu skip pc).pauseRequested = false) :
    Fresh (hitBreakpoint d cpu skip pc) := by
  simp only [Debugger.hitBreakpoint] at hp ⊢
  split at hp
  · rename_i hskip
    rw [if_pos hskip]
    split at hp
    · exact h hp
    · split at hp
      · exact h hp
      · split at hp
        · cases hp
        · rename_i hhalts
          simp only [hhalts]
          refine (h hp).congr rfl ?_
          simp [computeHookActive]
  · rename_i hskip
    rw [if_neg hskip]
    exact h hp

lemma Fresh.instructionHook (h : Fresh d) (cpu : Cpu) (pc opcode : UInt32) :
    Fresh (instructionHook d cpu pc opcode).2 := by
  simp only [Debugger.instructionHook]
  split
  · exact h.congr rfl rfl
  · refine Fresh.takePause (fun hp => Fresh.hitBreakpoint (fun hp' => ?_) _ _ _ hp) _ _ _
    simp only [hitTempBp] at hp' ⊢
    split at hp'
    · cases hp'
    · rename_i htemp
      rw [if_neg htemp]
      exact h.congr rfl rfl

lemma watch_active (cpu : Cpu) (address size : UInt32) (isWrite : Bool) (value : UInt32)
    (wps : List Watchpoint) (h : d.hookActive = true) (hw : 0 < d.watchpoints.length) :
    (watch cpu address size isWrite value wps d).hookActive = true ∧
      0 < (watch cpu address size isWrite value wps d).watchpoints.length := by
  induction wps generalizing d with
  | nil => exact ⟨h, hw⟩
  | cons wp wps ih =>
    simp only [watch]
    split
    · split
      · refine ih ?_ ?_
        · simp only [Debugger.tracePush]
          split <;> exact h
        · simp only [Debugger.tracePush]
          split <;> exact hw
      · exact ⟨h, hw⟩
    · exact ih h hw

lemma computeHookActive_of_watchpoints (hw : 0 < d.watchpoints.length) :
    computeHookActive d = true := by
  simp [computeHookActive, hw]

lemma Fresh.memoryAccess (h : Fresh d) (cpu : Cpu) (address size : UInt32) (isWrite : Bool)
    (value : UInt32) : Fresh (memoryAccess d cpu address size isWrite value) := by
  simp only [Debugger.memoryAccess]
  split
  · exact h
  · rename_i hw
    split
    · exact h
    · have hpos : 0 < d.watchpoints.length := Nat.pos_of_ne_zero hw
      have hactive : d.hookActive = true := by rw [h, computeHookActive_of_watchpoints hpos]
      obtain ⟨hhook, hpos'⟩ := watch_active cpu address (if size = 0 then 1 else size) isWrite value
        d.watchpoints hactive hpos
      rw [Fresh, hhook, computeHookActive_of_watchpoints hpos']

lemma fresh_afterInstruction (d : State) (opcode : UInt32) : Fresh (afterInstruction d opcode) :=
  fresh_refresh _

lemma Fresh.exceptionHook (h : Fresh d) (cpu : Cpu) (address pc : UInt32) :
    Fresh (exceptionHook d cpu address pc) := by
  unfold Debugger.exceptionHook
  split
  · exact h
  · simp only
    split
    · exact fresh_refresh _
    · exact h.traceIf _ _ _ _ _ _ _

lemma Fresh.swiHook (h : Fresh d) (cpu : Cpu) (swinum opcode : UInt32) :
    Fresh (swiHook d cpu swinum opcode) := by
  simp only [Debugger.swiHook]
  split
  · exact h
  · split
    · exact fresh_refresh _
    · exact h.traceIf _ _ _ _ _ _ _

lemma Fresh.badMode (h : Fresh d) (cpu : Cpu) (mode pc : UInt32) : Fresh (badMode d cpu mode pc).2 := by
  simp only [Debugger.badMode]
  split
  · split
    · exact h.tracePush _ _ _ _ _ _
    · exact fresh_enterPause _ _ _ _
  · exact h.tracePush _ _ _ _ _ _

lemma Fresh.breakSwi (h : Fresh d) (cpu : Cpu) (pc : UInt32) : Fresh (breakSwi d cpu pc).2 := by
  simp only [Debugger.breakSwi]
  split
  · split
    · exact h.tracePush _ _ _ _ _ _
    · exact fresh_enterPause _ _ _ _
  · exact h.tracePush _ _ _ _ _ _

/-- **Every operation leaves the flag right.** -/
theorem Fresh.apply (h : Fresh d) (op : Op) : Fresh (apply d op) := by
  cases op with
  | requestPause reason => exact h.requestPause reason
  | resume => exact fresh_resume d
  | singleStep n => exact h.singleStep n
  | stepOver cpu info => exact h.stepOver cpu info
  | stepOut cpu => exact h.stepOut cpu
  | runTo address => exact h.runTo address
  | clearBreakpoints => exact fresh_refresh _
  | addBreakpointEx address condition ignoreCount oneShot =>
    exact h.addBreakpointEx address condition ignoreCount oneShot
  | removeBreakpoint address => exact h.removeBreakpoint address
  | setBreakpointEnabled address enabled => exact h.setBreakpointEnabled address enabled
  | clearWatchpoints => exact fresh_refresh _
  | addWatchpoint address size onRead onWrite logOnly =>
    exact h.addWatchpoint address size onRead onWrite logOnly
  | removeWatchpoint address size onRead onWrite =>
    exact h.removeWatchpoint address size onRead onWrite
  | setTraceConfig cfg => exact h.setTraceConfig cfg
  | drainTraceEvents max => exact h.congr rfl rfl
  | instructionHook cpu pc opcode => exact h.instructionHook cpu pc opcode
  | afterInstruction opcode => exact fresh_afterInstruction d opcode
  | memoryAccess cpu address size isWrite value => exact h.memoryAccess cpu address size isWrite value
  | exceptionHook cpu address pc => exact h.exceptionHook cpu address pc
  | swiHook cpu swinum opcode => exact h.swiHook cpu swinum opcode
  | badMode cpu mode pc => exact h.badMode cpu mode pc
  | breakSwi cpu pc => exact h.breakSwi cpu pc

/-- **The fast gate is never stale**: from the emulator's start, after every sequence of operations,
the flag is set exactly when something wants to see each instruction. -/
theorem gate_fresh (ops : List Op) :
    (Runs.exec apply {} ops).hookActive = true ↔
      computeHookActive (Runs.exec apply {} ops) = true := by
  have hfresh : Fresh (Runs.exec apply {} ops) :=
    Runs.exec_inv (I := Fresh) (C := fun _ _ => True) (fun d op h _ => h.apply op) ops ({} : State)
      rfl (fun _ _ => trivial)
  rw [hfresh]

end Gate

end RpcEmu.Debugger
