import RpcEmu.Debug.Stops
import RpcEmu.Lib.KeyedTable

/-!
# Arrivals at a breakpoint

The hook is called again for the instruction the machine has been stopped on.  Whatever lets the machine go arms
an exemption that hides this second call from the breakpoints, for the address that was *reported*.

* **`History`** is a run as it is seen from outside: where the core was really stopped, how often it has arrived
  at the breakpoint, and at how many of those the condition held.
* **The gap.**  A trapped exception stops the machine at the handler and is reported at the instruction that
  faulted, and a bad mode or a break SWI is reported in the middle of an instruction.  The exemption is then for
  an address the machine is not stopped at: an arrival is counted twice, or not at all.
-/

namespace RpcEmu.Debugger

open DebugExpr KeyedTable

def breakpointAt (d : State) (address : UInt32) : Option Breakpoint :=
  lookup Breakpoint.address address d.breakpoints

def exempt (d : State) (pc : UInt32) : Bool := d.resumeSkipActive && pc == d.resumeSkipAddress

def conditionHolds (condition : Option Text) (cpu : Cpu) : Bool :=
  match condition with
  | none => true
  | some text =>
    match debugexprEval (some text) (some cpu.env) with
    | .ok value => value != 0
    | .error _ => false

/-- The condition has a value where the CPU stands. -/
def Evaluates (condition : Option Text) (cpu : Cpu) : Prop :=
  match condition with
  | none => True
  | some text => (debugexprEval (some text) (some cpu.env)).isOk = true

/-! ## A run as it is seen from outside -/

/-- `stopped` is where the core was stopped by the last call of the hook it made while it ran, if it was. -/
structure History where
  debugger : State := {}
  stopped : Option UInt32 := none
  arrivals : Nat := 0
  satisfied : Nat := 0

section History

variable (address : UInt32) (condition : Option Text) (ignoreCount : UInt32)

/-- **An arrival**: the core calls the hook for this address, and has not been stopped there. -/
def History.arrives (h : History) (pc : UInt32) : Bool := pc == address && h.stopped != some address

def History.step (h : History) : Op → History
  | .instructionHook cpu pc opcode =>
    let (stops, d) := instructionHook h.debugger cpu pc opcode
    if h.debugger.paused then { h with debugger := d }
    else
      { debugger := d
        stopped := if stops then some pc else none
        arrivals := h.arrivals + (h.arrives address pc).toNat
        satisfied := h.satisfied + (h.arrives address pc && conditionHolds condition cpu).toNat }
  | op => { h with debugger := apply h.debugger op }

/-- **Every arrival counts once**, and the machine halts for the breakpoint at those at which the condition holds,
from the one after the ignored ones on. -/
def Counts (h : History) (op : Op) : Prop :=
  (∀ bp ∈ breakpointAt (h.step address condition op).debugger address,
      bp.hitCount.toNat = (h.step address condition op).arrivals) ∧
    match op with
    | .instructionHook cpu pc opcode =>
      pc = address → h.debugger.paused = false → (breakpointAt h.debugger address).isSome = true →
        ((instructionHook h.debugger cpu pc opcode).1 = true ∧
            (instructionHook h.debugger cpu pc opcode).2.pauseReason = .breakpoint ↔
          h.arrives address pc = true ∧ conditionHolds condition cpu = true ∧
            ignoreCount.toNat ≤ h.satisfied)
    | _ => True

/-- The call is exempt if and only if the machine was stopped there, and the counter has room for the arrival.
A one-shot breakpoint that halts is gone and has no counter. -/
def ReportedWhereStopped (h : History) : Op → Prop
  | .instructionHook cpu pc _ =>
    pc = address → h.debugger.paused = false → ∀ bp ∈ breakpointAt h.debugger address,
      (exempt h.debugger pc = true ↔ h.stopped = some pc) ∧
        (h.arrives address pc = true → ((breakpointShouldHalt cpu bp).1 && bp.oneShot) = false →
          h.arrivals + 1 < 2 ^ 32)
  | _ => True

instance (h : History) (op : Op) : Decidable (ReportedWhereStopped address h op) := by
  cases op <;> dsimp only [ReportedWhereStopped] <;> infer_instance

instance (h : History) (op : Op) : Decidable (Counts address condition ignoreCount h op) := by
  cases op <;> dsimp only [Counts] <;> infer_instance

/-- The operation leaves the breakpoint set, and its condition can be evaluated. -/
def LeavesSet : Op → Prop
  | .clearBreakpoints => False
  | .addBreakpointEx a _ _ _ | .removeBreakpoint a | .setBreakpointEnabled a _ => a ≠ address
  | .instructionHook cpu pc _ => pc = address → Evaluates condition cpu
  | _ => True

/-- A pause asked for is the user's. -/
def UserPauses : Op → Prop
  | .requestPause reason => reason = .user
  | _ => True

def breakpointSet (oneShot : Bool) (ops : List Op) : History :=
  { Runs.exec (History.step address (keptCondition condition)) {}
      (ops ++ [.addBreakpointEx address condition ignoreCount oneShot]) with arrivals := 0, satisfied := 0 }

end History

/-! ## What leaves the table alone -/

section Table

variable {d d' : State} {address : UInt32}

/-- No address is in the table twice, and a breakpoint's stop does not wait for another call. -/
structure Sound (d : State) : Prop where
  distinct : Distinct Breakpoint.address d.breakpoints
  pending : d.pendingReason ≠ .breakpoint

/-- The breakpoints are the same, and no pause for one is new. -/
structure Kept (d d' : State) : Prop where
  breakpoints : d'.breakpoints = d.breakpoints
  pending : d.pendingReason ≠ .breakpoint → d'.pendingReason ≠ .breakpoint

lemma Kept.refl (d : State) : Kept d d := ⟨rfl, id⟩

lemma Kept.trans {d'' : State} (h : Kept d d') (h' : Kept d' d'') : Kept d d'' :=
  ⟨h'.breakpoints.trans h.breakpoints, fun hp => h'.pending (h.pending hp)⟩

lemma Kept.sound (h : Kept d d') (hsound : Sound d) : Sound d' :=
  ⟨by rw [h.breakpoints]; exact hsound.distinct, h.pending hsound.pending⟩

lemma Kept.breakpointAt (h : Kept d d') : breakpointAt d' address = breakpointAt d address := by
  rw [Debugger.breakpointAt, h.breakpoints]
  rfl

lemma breakpoints_armResumeSkip : (armResumeSkip d).breakpoints = d.breakpoints := by
  unfold armResumeSkip
  split <;> rfl

lemma kept_resume : Kept d (resume d) := ⟨breakpoints_armResumeSkip, fun _ => nofun⟩

lemma kept_singleStep (instructionCount : UInt32) : Kept d (singleStep d instructionCount) := by
  unfold singleStep
  split
  · exact Kept.refl d
  · exact ⟨breakpoints_armResumeSkip, fun _ => nofun⟩

lemma kept_runToTemp (target : UInt32) : Kept d (runToTemp d target) := kept_resume.trans ⟨rfl, id⟩

lemma kept_stepOver (cpu : Cpu) (info : Option InsnInfo) : Kept d (stepOver d cpu info) := by
  unfold stepOver
  split
  · split
    · exact kept_singleStep 1
    · split
      · exact kept_runToTemp _
      · split
        · split
          · exact kept_runToTemp _
          · exact kept_singleStep 1
        · exact kept_singleStep 1
  · exact Kept.refl d

lemma kept_stepOut (cpu : Cpu) : Kept d (stepOut d cpu) := by
  unfold stepOut
  split
  · dsimp only
    split
    · exact Kept.refl d
    · exact kept_runToTemp _
  · exact Kept.refl d

lemma kept_runTo (target : UInt32) : Kept d (runTo d target) := by
  unfold runTo
  split
  · exact kept_runToTemp target
  · exact Kept.refl d

lemma kept_afterInstruction (opcode : UInt32) : Kept d (afterInstruction d opcode) := by
  unfold afterInstruction stepRunsTheSwiOn
  dsimp only
  split_ifs <;> first | exact ⟨rfl, id⟩ | exact ⟨rfl, fun _ => nofun⟩

lemma kept_event (e : Event) : Kept d (apply d e.op) := by
  obtain ⟨hasks, hsame⟩ := asks_apply (d := d) e
  have hpending := congrArg Asks.pendingReason hasks
  refine ⟨hsame.breakpoints, fun hp => ?_⟩
  change (apply d e.op).pendingReason = _ at hpending
  rw [hpending]
  cases hfires : fires d e with
  | none => exact hp
  | some reason =>
    have hcause := isCause_of_fires hfires
    cases reason with
    | none | step | breakpoint => cases hcause
    | _ =>
      simp only [Option.elim_some, Asks.take]
      split
      · exact hp
      · intro hsame
        cases hsame

lemma kept_addWatchpoint (target size : UInt32) (onRead onWrite logOnly : Bool) :
    Kept d (addWatchpoint d target size onRead onWrite logOnly) := by
  unfold addWatchpoint
  split
  · exact Kept.refl d
  · split
    · exact ⟨rfl, id⟩
    · split
      · exact Kept.refl d
      · exact ⟨rfl, id⟩

lemma kept_removeWatchpoint (target size : UInt32) (onRead onWrite : Bool) :
    Kept d (removeWatchpoint d target size onRead onWrite) := by
  unfold removeWatchpoint
  split
  · exact ⟨rfl, id⟩
  · exact Kept.refl d

lemma kept_setTraceConfig (cfg : Option TraceConfig) : Kept d (setTraceConfig d cfg) := by
  cases cfg <;> exact ⟨rfl, id⟩

/-! ## What edits it -/

lemma Sound.clearBreakpoints (h : Sound d) : Sound (clearBreakpoints d) := ⟨distinct_nil, h.pending⟩

lemma Sound.addBreakpointEx (h : Sound d) (target : UInt32) (condition : Option Text) (ignoreCount : UInt32)
    (oneShot : Bool) : Sound (addBreakpointEx d target condition ignoreCount oneShot) := by
  unfold Debugger.addBreakpointEx
  dsimp only
  split
  next i hindex => exact ⟨h.distinct.set hindex rfl, h.pending⟩
  next hindex =>
    split
    · exact h
    · exact ⟨h.distinct.concat hindex, h.pending⟩

lemma Sound.removeBreakpoint (h : Sound d) (target : UInt32) : Sound (removeBreakpoint d target) := by
  unfold Debugger.removeBreakpoint
  split
  · exact ⟨h.distinct.eraseIdx _, h.pending⟩
  · exact h

lemma setBreakpointEnabled_table {target : UInt32} {i : Nat} (hindex : breakpointIndex d target = some i)
    (enabled : Bool) :
    ∃ bp, bp.address = target ∧ (setBreakpointEnabled d target enabled).breakpoints = d.breakpoints.set i bp := by
  obtain ⟨hi, hfound, -⟩ := List.findIdx?_eq_some_iff_getElem.mp hindex
  refine ⟨{ d.breakpoints[i] with enabled := enabled }, eq_of_beq hfound, ?_⟩
  rw [setBreakpointEnabled, hindex]
  exact List.modify_eq_set_get _ hi

lemma Sound.setBreakpointEnabled (h : Sound d) (target : UInt32) (enabled : Bool) :
    Sound (setBreakpointEnabled d target enabled) := by
  cases hindex : breakpointIndex d target with
  | none =>
    rw [Debugger.setBreakpointEnabled, hindex]
    exact h
  | some i =>
    obtain ⟨bp, hbp, htable⟩ := setBreakpointEnabled_table hindex enabled
    refine ⟨?_, ?_⟩
    · rw [htable]
      exact h.distinct.set hindex hbp
    · rw [Debugger.setBreakpointEnabled, hindex]
      exact h.pending

lemma breakpointAt_set {target : UInt32} {i : Nat} {bp : Breakpoint} (hindex : breakpointIndex d target = some i)
    (hbp : bp.address = target) (htable : d'.breakpoints = d.breakpoints.set i bp) :
    breakpointAt d' address = if target = address then some bp else breakpointAt d address := by
  rw [breakpointAt, htable]
  exact lookup_set hindex hbp

lemma breakpointAt_concat {bp : Breakpoint} (hindex : breakpointIndex d bp.address = none)
    (htable : d'.breakpoints = d.breakpoints ++ [bp]) :
    breakpointAt d' address = if bp.address = address then some bp else breakpointAt d address := by
  rw [breakpointAt, htable]
  exact lookup_concat hindex

lemma breakpointAt_addBreakpointEx {target : UInt32} (hne : target ≠ address) (condition : Option Text)
    (ignoreCount : UInt32) (oneShot : Bool) :
    breakpointAt (addBreakpointEx d target condition ignoreCount oneShot) address = breakpointAt d address := by
  unfold addBreakpointEx
  dsimp only
  split
  next i hindex => exact (breakpointAt_set hindex rfl rfl).trans (if_neg hne)
  next hindex =>
    split
    · rfl
    · exact (breakpointAt_concat hindex rfl).trans (if_neg hne)

lemma breakpointAt_added (condition : Option Text) (ignoreCount : UInt32) (oneShot : Bool) (bp : Breakpoint)
    (hbp : breakpointAt (addBreakpointEx d address condition ignoreCount oneShot) address = some bp) :
    bp = { address := address, oneShot := oneShot, ignoreCount := ignoreCount, condition := keptCondition condition } := by
  unfold addBreakpointEx at hbp
  dsimp only at hbp
  split at hbp
  next i hindex =>
    rw [breakpointAt_set (d := d) hindex rfl rfl, if_pos rfl] at hbp
    exact (Option.some.inj hbp).symm
  next hindex =>
    split at hbp
    · have hnone : breakpointAt d address = none := by
        rw [breakpointAt, lookup_eq]
        exact congrArg (Option.bind · _) hindex
      rw [hnone] at hbp
      cases hbp
    · have hadded := hbp.symm.trans ((breakpointAt_concat hindex rfl).trans (if_pos rfl))
      exact Option.some.inj hadded

lemma breakpointAt_removeBreakpoint (hdistinct : Distinct Breakpoint.address d.breakpoints) (target : UInt32) :
    breakpointAt (removeBreakpoint d target) address =
      if target = address then none else breakpointAt d address := by
  unfold removeBreakpoint
  split
  next i hindex => exact lookup_eraseIdx hdistinct hindex
  next hindex =>
    by_cases htarget : target = address
    · rw [if_pos htarget, breakpointAt, lookup_eq, ← htarget]
      exact congrArg (Option.bind · _) hindex
    · rw [if_neg htarget]

lemma breakpointAt_setBreakpointEnabled {target : UInt32} (hne : target ≠ address) (enabled : Bool) :
    breakpointAt (setBreakpointEnabled d target enabled) address = breakpointAt d address := by
  cases hindex : breakpointIndex d target with
  | none => rw [setBreakpointEnabled, hindex]
  | some i =>
    obtain ⟨bp, hbp, htable⟩ := setBreakpointEnabled_table hindex enabled
    rw [breakpointAt_set hindex hbp htable, if_neg hne]

end Table

/-! ## The hook's look at it -/

section Hook

variable {d : State} {address : UInt32} (cpu : Cpu) (pc opcode : UInt32)

/-- The breakpoints differ in their counts only. -/
structure SameSetting (bp bp' : Breakpoint) : Prop where
  address : bp'.address = bp.address
  enabled : bp'.enabled = bp.enabled
  oneShot : bp'.oneShot = bp.oneShot
  condition : bp'.condition = bp.condition

lemma sameSetting_spend (bp : Breakpoint) : SameSetting bp (breakpointShouldHalt.spend bp).2 := by
  unfold breakpointShouldHalt.spend
  split <;> exact ⟨rfl, rfl, rfl, rfl⟩

lemma sameSetting_breakpointShouldHalt (bp : Breakpoint) : SameSetting bp (breakpointShouldHalt cpu bp).2 := by
  have hspend := sameSetting_spend { bp with hitCount := bp.hitCount + 1 }
  unfold breakpointShouldHalt
  split
  · dsimp only
    split
    · exact ⟨hspend.address, hspend.enabled, hspend.oneShot, hspend.condition⟩
    · split
      · exact ⟨rfl, rfl, rfl, rfl⟩
      · split
        · exact ⟨rfl, rfl, rfl, rfl⟩
        · exact ⟨hspend.address, hspend.enabled, hspend.oneShot, hspend.condition⟩
  · exact ⟨rfl, rfl, rfl, rfl⟩

lemma spend_spec (bp : Breakpoint) :
    ((breakpointShouldHalt.spend bp).1 = true ↔ bp.ignoreCount.toNat = 0) ∧
      (breakpointShouldHalt.spend bp).2.hitCount = bp.hitCount ∧
      (breakpointShouldHalt.spend bp).2.ignoreCount.toNat = bp.ignoreCount.toNat - 1 := by
  unfold breakpointShouldHalt.spend
  split
  next hpos =>
    have hpos' : 0 < bp.ignoreCount.toNat := UInt32.lt_iff_toNat_lt.mp hpos
    have hle : (1 : UInt32) ≤ bp.ignoreCount := UInt32.le_iff_toNat_le.mpr hpos'
    refine ⟨⟨nofun, fun hz => absurd hz (Nat.ne_of_gt hpos')⟩, rfl, ?_⟩
    exact UInt32.toNat_sub_of_le _ _ hle
  next hzero =>
    have hzero' : bp.ignoreCount.toNat = 0 :=
      Nat.eq_zero_of_not_pos fun hpos => hzero (UInt32.lt_iff_toNat_lt.mpr hpos)
    refine ⟨⟨fun _ => hzero', fun _ => rfl⟩, rfl, ?_⟩
    dsimp only
    omega

/-- **One look**: the hit is counted, and where the condition holds the machine is to halt unless there is
something left to ignore. -/
lemma breakpointShouldHalt_spec {bp : Breakpoint} (henabled : bp.enabled = true) (heval : Evaluates bp.condition cpu) :
    ((breakpointShouldHalt cpu bp).1 = true ↔
        conditionHolds bp.condition cpu = true ∧ bp.ignoreCount.toNat = 0) ∧
      (breakpointShouldHalt cpu bp).2.hitCount = bp.hitCount + 1 ∧
      (breakpointShouldHalt cpu bp).2.ignoreCount.toNat =
        bp.ignoreCount.toNat - (conditionHolds bp.condition cpu).toNat := by
  obtain ⟨address, enabled, oneShot, ignoreCount, hitCount, evalErrors, condition⟩ := bp
  unfold breakpointShouldHalt
  rw [if_pos henabled]
  cases condition with
  | none =>
    obtain ⟨hhalts, hcount, hignore⟩ :=
      spend_spec ⟨address, enabled, oneShot, ignoreCount, hitCount + 1, evalErrors, none⟩
    have hholds : conditionHolds none cpu = true := rfl
    dsimp only
    rw [hholds]
    exact ⟨hhalts.trans (by simp), hcount, hignore⟩
  | some text =>
    obtain ⟨hhalts, hcount, hignore⟩ :=
      spend_spec ⟨address, enabled, oneShot, ignoreCount, hitCount + 1, evalErrors, some text⟩
    dsimp only [conditionHolds, Evaluates] at heval ⊢
    cases heval' : debugexprEval (some text) (some cpu.env) with
    | error e =>
      rw [heval'] at heval
      cases heval
    | ok value =>
      dsimp only
      by_cases hzero : value = 0
      · rw [if_pos hzero, hzero]
        exact ⟨by simp, rfl, rfl⟩
      · have hholds : (value != 0) = true := by simpa using hzero
        rw [if_neg hzero, hholds]
        exact ⟨hhalts.trans (by simp), hcount, hignore⟩

def looked (bp : Breakpoint) : Option Breakpoint :=
  if (breakpointShouldHalt cpu bp).1 && bp.oneShot then none else some (breakpointShouldHalt cpu bp).2

lemma hitBreakpoint_found {i : Nat} {bp : Breakpoint} (hindex : breakpointIndex d pc = some i)
    (hbp : d.breakpoints[i]? = some bp) :
    (hitBreakpoint d cpu false pc).breakpoints =
      if (breakpointShouldHalt cpu bp).1 && bp.oneShot then
        (removeBreakpoint { d with breakpoints := d.breakpoints.set i (breakpointShouldHalt cpu bp).2 } pc).breakpoints
      else d.breakpoints.set i (breakpointShouldHalt cpu bp).2 := by
  obtain ⟨hi, -⟩ := List.getElem?_eq_some_iff.mp hbp
  have hpos : (decide (0 < d.breakpoints.length) && !false) = true := by simpa using Nat.zero_lt_of_lt hi
  unfold hitBreakpoint
  rw [if_pos hpos]
  simp only [hindex, hbp, (sameSetting_breakpointShouldHalt cpu bp).oneShot]
  cases (breakpointShouldHalt cpu bp).1 with
  | false => rfl
  | true => cases bp.oneShot <;> rfl

lemma breakpointAt_hitBreakpoint (hsound : Sound d) (skip : Bool) :
    breakpointAt (hitBreakpoint d cpu skip pc) address =
      if pc = address ∧ skip = false then (breakpointAt d address).bind (looked cpu) else breakpointAt d address := by
  cases skip with
  | true =>
    rw [if_neg nofun, hitBreakpoint, Bool.not_true, Bool.and_false, if_neg Bool.false_ne_true]
  | false =>
    simp only [and_true]
    have hlookup : breakpointAt d pc = (breakpointIndex d pc).bind fun i => d.breakpoints[i]? := lookup_eq
    cases hindex : breakpointIndex d pc with
    | none =>
      have hsame : hitBreakpoint d cpu false pc = d := by
        unfold hitBreakpoint
        simp only [hindex, ite_self]
      rw [hindex, Option.bind_none] at hlookup
      rw [hsame]
      by_cases hpc : pc = address
      · rw [if_pos hpc, ← hpc, hlookup, Option.bind_none]
      · rw [if_neg hpc]
    | some i =>
      obtain ⟨hi, hfound, -⟩ := List.findIdx?_eq_some_iff_getElem.mp hindex
      have hbp : d.breakpoints[i]? = some d.breakpoints[i] := List.getElem?_eq_getElem hi
      rw [hindex, Option.bind_some, hbp] at hlookup
      have haddress : (breakpointShouldHalt cpu d.breakpoints[i]).2.address = pc :=
        (sameSetting_breakpointShouldHalt cpu _).address.trans (eq_of_beq hfound)
      have htable := hitBreakpoint_found cpu pc hindex hbp
      cases hgone : (breakpointShouldHalt cpu d.breakpoints[i]).1 && d.breakpoints[i].oneShot with
      | false =>
        rw [hgone, if_neg Bool.false_ne_true] at htable
        rw [breakpointAt_set hindex haddress htable]
        by_cases hpc : pc = address
        · rw [if_pos hpc, if_pos hpc, ← hpc, hlookup, Option.bind_some, looked, hgone]
          rfl
        · rw [if_neg hpc, if_neg hpc]
      | true =>
        rw [hgone, if_pos rfl] at htable
        have hwritten : breakpointAt { d with
            breakpoints := d.breakpoints.set i (breakpointShouldHalt cpu d.breakpoints[i]).2 } address = _ :=
          breakpointAt_set hindex haddress rfl
        have hremoved : breakpointAt (hitBreakpoint d cpu false pc) address = _ :=
          (congrArg (lookup Breakpoint.address address) htable).trans
            (breakpointAt_removeBreakpoint (hsound.distinct.set hindex haddress) pc)
        rw [hremoved, hwritten]
        by_cases hpc : pc = address
        · rw [if_pos hpc, if_pos hpc, ← hpc, hlookup, Option.bind_some, looked, hgone]
          rfl
        · rw [if_neg hpc, if_neg hpc, if_neg hpc]

lemma Sound.hitBreakpoint (hsound : Sound d) (skip : Bool) :
    Distinct Breakpoint.address (hitBreakpoint d cpu skip pc).breakpoints := by
  cases skip with
  | true =>
    rw [Debugger.hitBreakpoint, Bool.not_true, Bool.and_false, if_neg Bool.false_ne_true]
    exact hsound.distinct
  | false =>
    cases hindex : breakpointIndex d pc with
    | none =>
      unfold Debugger.hitBreakpoint
      simp only [hindex, ite_self]
      exact hsound.distinct
    | some i =>
      obtain ⟨hi, hfound, -⟩ := List.findIdx?_eq_some_iff_getElem.mp hindex
      have hset : Distinct Breakpoint.address (d.breakpoints.set i (breakpointShouldHalt cpu d.breakpoints[i]).2) :=
        hsound.distinct.set hindex ((sameSetting_breakpointShouldHalt cpu _).address.trans (eq_of_beq hfound))
      rw [hitBreakpoint_found cpu pc hindex (List.getElem?_eq_getElem hi)]
      split
      · have hwritten : Sound { d with breakpoints := d.breakpoints.set i (breakpointShouldHalt cpu d.breakpoints[i]).2 } :=
          ⟨hset, hsound.pending⟩
        exact (hwritten.removeBreakpoint pc).distinct
      · exact hset

lemma sound_hitTempBp (hsound : Sound d) :
    Sound (hitTempBp (arriving d pc opcode) pc) ∧
      (hitTempBp (arriving d pc opcode) pc).breakpoints = d.breakpoints := by
  obtain ⟨-, -, htable, -, hpending⟩ := hitTempBp_spec (d := arriving d pc opcode) pc
  refine ⟨⟨?_, ?_⟩, htable⟩
  · rw [htable]
    exact hsound.distinct
  · rw [hpending]
    split
    · exact nofun
    · exact hsound.pending

lemma breakpoints_takePause : (takePause d cpu pc opcode).2.breakpoints = d.breakpoints := by
  unfold takePause
  split
  · dsimp only
    split
    · rfl
    · split <;> rfl
  · rfl

lemma breakpointAt_hook (hruns : d.paused = false) (hsound : Sound d) (address : UInt32) :
    breakpointAt (instructionHook d cpu pc opcode).2 address =
      if pc = address ∧ exempt d pc = false then (breakpointAt d address).bind (looked cpu)
      else breakpointAt d address := by
  obtain ⟨hsound', htable⟩ := sound_hitTempBp pc opcode hsound
  rw [instructionHook_eq cpu pc opcode hruns]
  refine (congrArg (lookup Breakpoint.address address) (breakpoints_takePause cpu pc opcode)).trans ?_
  refine (breakpointAt_hitBreakpoint cpu pc hsound' _).trans ?_
  rw [show breakpointAt (hitTempBp (arriving d pc opcode) pc) address = breakpointAt d address from
    congrArg (lookup Breakpoint.address address) htable]
  rfl

lemma pending_takePause (h : d.pauseRequested = false → d.pendingReason ≠ .breakpoint) :
    (takePause d cpu pc opcode).2.pendingReason ≠ .breakpoint := by
  unfold takePause
  split
  · dsimp only
    split
    · exact nofun
    · split <;> exact nofun
  next hnone => exact h (Bool.eq_false_iff.mpr hnone)

lemma Sound.instructionHook (hsound : Sound d) : Sound (instructionHook d cpu pc opcode).2 := by
  cases hpaused : d.paused with
  | true =>
    rw [show Debugger.instructionHook d cpu pc opcode = (true, { d with lastPc := pc, lastOpcode := opcode }) from
      if_pos hpaused]
    exact ⟨hsound.distinct, hsound.pending⟩
  | false =>
    obtain ⟨hsound', -⟩ := sound_hitTempBp pc opcode hsound
    rw [instructionHook_eq cpu pc opcode hpaused]
    refine ⟨?_, pending_takePause cpu pc opcode fun hnone => ?_⟩
    · rw [breakpoints_takePause]
      exact hsound'.hitBreakpoint cpu pc _
    · obtain ⟨-, -, hrequested, hpending⟩ := hitBreakpoint_spec (d := hitTempBp (arriving d pc opcode) pc) cpu pc
        (d.resumeSkipActive && pc == d.resumeSkipAddress)
      rw [hrequested, Bool.or_eq_false_iff] at hnone
      rw [hpending, hnone.1]
      exact hsound'.pending

/-- **The machine halts for a breakpoint** if there is one to halt at and the call is not exempt. -/
lemma hook_halts (hruns : d.paused = false) (hsound : Sound d) :
    (instructionHook d cpu pc opcode).1 = true ∧ (instructionHook d cpu pc opcode).2.pauseReason = .breakpoint ↔
      exempt d pc = false ∧ ∃ bp ∈ breakpointAt d pc, (breakpointShouldHalt cpu bp).1 = true := by
  obtain ⟨hsound', htable⟩ := sound_hitTempBp pc opcode hsound
  have hhalts : breakpointHalts (hitTempBp (arriving d pc opcode) pc) cpu pc = true ↔
      ∃ bp ∈ breakpointAt d pc, (breakpointShouldHalt cpu bp).1 = true := by
    have hlookup : breakpointAt d pc = (breakpointIndex d pc).bind fun i => d.breakpoints[i]? := lookup_eq
    rw [breakpointHalts_congr cpu pc htable, breakpointHalts, ← hlookup]
    cases breakpointAt d pc <;> simp
  have hhook : instructionHook d cpu pc opcode =
      takePause (hitBreakpoint (hitTempBp (arriving d pc opcode) pc) cpu (exempt d pc) pc) cpu pc opcode :=
    instructionHook_eq cpu pc opcode hruns
  rw [hhook, ← hhalts]
  obtain ⟨-, -, hrequested, hpending⟩ := hitBreakpoint_spec (d := hitTempBp (arriving d pc opcode) pc) cpu pc
    (exempt d pc)
  obtain ⟨hnone, hstops, hreports, -⟩ := takePause_spec
    (d := hitBreakpoint (hitTempBp (arriving d pc opcode) pc) cpu (exempt d pc) pc) cpu pc opcode
  revert hnone hstops hreports hrequested hpending
  generalize hitBreakpoint (hitTempBp (arriving d pc opcode) pc) cpu (exempt d pc) pc = t
  intro hrequested hpending hnone hstops hreports
  constructor
  · rintro ⟨hstopped, hreason⟩
    rw [hreports hstopped, pendingOrUser] at hreason
    by_contra hnot
    have hlooked : (!exempt d pc && breakpointHalts (hitTempBp (arriving d pc opcode) pc) cpu pc) = false := by
      cases hexempt : exempt d pc with
      | true => rfl
      | false => exact Bool.eq_false_iff.mpr fun hhalts => hnot ⟨hexempt, hhalts⟩
    rw [hpending, hlooked, if_neg Bool.false_ne_true] at hreason
    split at hreason
    · cases hreason
    · exact hsound'.pending hreason
  · rintro ⟨hexempt, hhalts⟩
    rw [hexempt, hhalts] at hrequested hpending
    have hreason : pendingOrUser t = .breakpoint := by
      rw [pendingOrUser, hpending]
      rfl
    have hstopped := hstops hrequested (by rw [hreason]; decide)
    exact ⟨hstopped, (hreports hstopped).trans hreason⟩

end Hook

/-! ## A whole run -/

section Run

variable {address : UInt32} {condition : Option Text} {ignoreCount : UInt32}

def usesTable : Op → Bool
  | .clearBreakpoints | .addBreakpointEx .. | .removeBreakpoint _ | .setBreakpointEnabled .. | .instructionHook .. => true
  | _ => false

lemma kept_apply {d : State} {op : Op} (huser : UserPauses op) (hop : usesTable op = false) : Kept d (apply d op) := by
  cases op with
  | requestPause reason =>
    cases (show reason = .user from huser)
    exact kept_event .userPause
  | resume => exact kept_resume
  | singleStep n => exact kept_singleStep n
  | stepOver cpu info => exact kept_stepOver cpu info
  | stepOut cpu => exact kept_stepOut cpu
  | runTo target => exact kept_runTo target
  | clearWatchpoints => exact ⟨rfl, id⟩
  | addWatchpoint target size onRead onWrite logOnly => exact kept_addWatchpoint target size onRead onWrite logOnly
  | removeWatchpoint target size onRead onWrite => exact kept_removeWatchpoint target size onRead onWrite
  | setTraceConfig cfg => exact kept_setTraceConfig cfg
  | drainTraceEvents max => exact ⟨rfl, id⟩
  | afterInstruction opcode => exact kept_afterInstruction opcode
  | memoryAccess cpu target size isWrite value => exact kept_event (.memoryAccess cpu target size isWrite value)
  | exceptionHook cpu target pc => exact kept_event (.exception cpu target pc)
  | swiHook cpu swinum opcode => exact kept_event (.swi cpu swinum opcode)
  | badMode cpu mode pc => exact kept_event (.badMode cpu mode pc)
  | breakSwi cpu pc => exact kept_event (.breakSwi cpu pc)
  | clearBreakpoints | addBreakpointEx | removeBreakpoint | setBreakpointEnabled | instructionHook => cases hop

/-- **Every operation** leaves no address twice in the table, and no breakpoint's stop waiting. -/
theorem Sound.apply {d : State} (h : Sound d) {op : Op} (huser : UserPauses op) : Sound (apply d op) := by
  cases hop : usesTable op with
  | false => exact (kept_apply huser hop).sound h
  | true =>
    cases op with
    | clearBreakpoints => exact h.clearBreakpoints
    | addBreakpointEx target condition ignoreCount oneShot =>
      exact h.addBreakpointEx target condition ignoreCount oneShot
    | removeBreakpoint target => exact h.removeBreakpoint target
    | setBreakpointEnabled target enabled => exact h.setBreakpointEnabled target enabled
    | instructionHook cpu pc opcode => exact h.instructionHook cpu pc opcode
    | _ => cases hop

lemma breakpointAt_apply {d : State} (h : Sound d) {op : Op} (huser : UserPauses op)
    (hleaves : LeavesSet address condition op) (hhook : ∀ cpu pc opcode, op ≠ .instructionHook cpu pc opcode) :
    breakpointAt (apply d op) address = breakpointAt d address := by
  cases hop : usesTable op with
  | false => exact (kept_apply huser hop).breakpointAt
  | true =>
    cases op with
    | clearBreakpoints => exact hleaves.elim
    | addBreakpointEx target condition ignoreCount oneShot =>
      exact breakpointAt_addBreakpointEx hleaves condition ignoreCount oneShot
    | removeBreakpoint target => exact (breakpointAt_removeBreakpoint h.distinct target).trans (if_neg hleaves)
    | setBreakpointEnabled target enabled => exact breakpointAt_setBreakpointEnabled hleaves enabled
    | instructionHook cpu pc opcode => exact absurd rfl (hhook cpu pc opcode)
    | _ => cases hop

/-- As long as the breakpoint is in the table it has counted the arrivals, and what is left to ignore is what
the satisfied ones have not spent. -/
structure Tallied (address : UInt32) (condition : Option Text) (ignoreCount : UInt32) (h : History) : Prop where
  sound : Sound h.debugger
  counts : ∀ bp ∈ breakpointAt h.debugger address,
    bp.enabled = true ∧ bp.condition = condition ∧ bp.hitCount.toNat = h.arrivals ∧
      bp.ignoreCount.toNat = ignoreCount.toNat - h.satisfied

/-- An operation that lets the breakpoint's arrivals be counted. -/
def Allowed (address : UInt32) (condition : Option Text) (op : Op) : Prop :=
  UserPauses op ∧ LeavesSet address condition op

variable {h : History} (htallied : Tallied address condition ignoreCount h)

lemma sound_step {op : Op} (hsound : Sound h.debugger) (huser : UserPauses op) :
    Sound (h.step address condition op).debugger := by
  cases op with
  | instructionHook cpu pc opcode =>
    unfold History.step
    dsimp only
    split <;> exact hsound.instructionHook cpu pc opcode
  | _ => exact hsound.apply huser

lemma step_elsewhere (condition : Option Text) (cpu : Cpu) {pc : UInt32} (opcode : UInt32)
    (hsound : Sound h.debugger) (helse : h.debugger.paused = true ∨ pc ≠ address) :
    breakpointAt (h.step address condition (.instructionHook cpu pc opcode)).debugger address =
        breakpointAt h.debugger address ∧
      (h.step address condition (.instructionHook cpu pc opcode)).arrivals = h.arrivals ∧
      (h.step address condition (.instructionHook cpu pc opcode)).satisfied = h.satisfied := by
  cases hpaused : h.debugger.paused with
  | true =>
    have hstays : instructionHook h.debugger cpu pc opcode =
        (true, { h.debugger with lastPc := pc, lastOpcode := opcode }) := if_pos hpaused
    simp only [History.step, hstays, hpaused, if_true]
    exact ⟨rfl, trivial, trivial⟩
  | false =>
    have hne : pc ≠ address := helse.resolve_left (by simp [hpaused])
    have htable := breakpointAt_hook cpu pc opcode hpaused hsound address
    rw [if_neg fun hat => hne hat.1] at htable
    have harrives : h.arrives address pc = false := by simp [History.arrives, hne]
    simp only [History.step, hpaused, harrives, Bool.false_and, Bool.toNat_false, Nat.add_zero]
    exact ⟨htable, rfl, rfl⟩

lemma step_there (condition : Option Text) (cpu : Cpu) (opcode : UInt32) (hsound : Sound h.debugger)
    (hruns : h.debugger.paused = false) :
    breakpointAt (h.step address condition (.instructionHook cpu address opcode)).debugger address =
        (if exempt h.debugger address then breakpointAt h.debugger address
        else (breakpointAt h.debugger address).bind (looked cpu)) ∧
      (h.step address condition (.instructionHook cpu address opcode)).arrivals =
        h.arrivals + (h.arrives address address).toNat ∧
      (h.step address condition (.instructionHook cpu address opcode)).satisfied =
        h.satisfied + (h.arrives address address && conditionHolds condition cpu).toNat := by
  have htable := breakpointAt_hook cpu address opcode hruns hsound address
  simp only [History.step, hruns]
  refine ⟨htable.trans ?_, rfl, rfl⟩
  cases exempt h.debugger address <;> simp

lemma hitCount_succ {n : Nat} {count : UInt32} (hcount : count.toNat = n) :
    ((count + 1).toNat = n + 1 ↔ n + 1 < 2 ^ 32) ∧ (count + 1).toNat ≠ n := by
  have hlt := count.toNat_lt
  rw [UInt32.toNat_add, UInt32.toNat_one]
  omega

lemma mem_looked {cpu : Cpu} {bp bp' : Breakpoint} :
    bp' ∈ looked cpu bp ↔
      ((breakpointShouldHalt cpu bp).1 && bp.oneShot) = false ∧ bp' = (breakpointShouldHalt cpu bp).2 := by
  unfold looked
  cases (breakpointShouldHalt cpu bp).1 && bp.oneShot <;> simp [eq_comm]

include htallied

lemma tallied_step {op : Op} (hallowed : Allowed address condition op) (hwhere : ReportedWhereStopped address h op) :
    Tallied address condition ignoreCount (h.step address condition op) := by
  obtain ⟨huser, hleaves⟩ := hallowed
  cases op with
  | instructionHook cpu pc opcode =>
    refine ⟨sound_step htallied.sound huser, fun bp' hbp' => ?_⟩
    by_cases helse : h.debugger.paused = true ∨ pc ≠ address
    · obtain ⟨htable, harrivals, hsatisfied⟩ := step_elsewhere condition cpu opcode htallied.sound
        helse
      rw [htable] at hbp'
      rw [harrivals, hsatisfied]
      exact htallied.counts bp' hbp'
    · obtain ⟨hrunning, hpc⟩ := not_or.mp helse
      have hruns := Bool.eq_false_iff.mpr hrunning
      cases not_not.mp hpc
      obtain ⟨htable, harrivals, hsatisfied⟩ := step_there condition cpu opcode htallied.sound
        hruns
      cases hbp : breakpointAt h.debugger address with
      | none =>
        rw [htable, hbp, Option.bind_none, ite_self] at hbp'
        cases hbp'
      | some bp =>
        obtain ⟨henabled, hcondition, hcount, hignore⟩ := htallied.counts bp hbp
        obtain ⟨hwhere, hroom⟩ := hwhere rfl hruns bp hbp
        rw [htable, hbp] at hbp'
        rw [harrivals, hsatisfied]
        cases hexempt : exempt h.debugger address with
        | true =>
          have hstopped := hwhere.mp hexempt
          have harrives : h.arrives address address = false := by simp [History.arrives, hstopped]
          rw [hexempt, if_pos rfl] at hbp'
          cases hbp'
          rw [harrives, Bool.false_and, Bool.toNat_false, Nat.add_zero, Nat.add_zero]
          exact ⟨henabled, hcondition, hcount, hignore⟩
        | false =>
          have harrives : h.arrives address address = true := by
            have hstopped : h.stopped ≠ some address := fun hs => absurd (hwhere.mpr hs) (by simp [hexempt])
            simp [History.arrives, hstopped]
          rw [hexempt, if_neg Bool.false_ne_true] at hbp'
          obtain ⟨hstays, rfl⟩ := mem_looked.mp hbp'
          have heval : Evaluates bp.condition cpu := by
            rw [hcondition]
            exact hleaves rfl
          have hsetting := sameSetting_breakpointShouldHalt cpu bp
          obtain ⟨-, hcount', hignore'⟩ := breakpointShouldHalt_spec cpu henabled heval
          rw [harrives, Bool.true_and, Bool.toNat_true, hcount', hignore', hcondition, hignore, Nat.sub_sub]
          exact ⟨hsetting.enabled.trans henabled, hsetting.condition.trans hcondition,
            (hitCount_succ hcount).1.mpr (hroom harrives hstays), rfl⟩
  | _ =>
    refine ⟨htallied.sound.apply huser, ?_⟩
    have htable := breakpointAt_apply htallied.sound huser hleaves nofun
    intro bp hbp
    exact htallied.counts bp (htable ▸ hbp)

/-- **One step**: it counts as it should if and only if the machine was let go of where it was stopped. -/
lemma counts_iff {op : Op} (hallowed : Allowed address condition op) :
    ReportedWhereStopped address h op ↔ Counts address condition ignoreCount h op := by
  obtain ⟨huser, hleaves⟩ := hallowed
  cases op with
  | instructionHook cpu pc opcode =>
    by_cases helse : h.debugger.paused = true ∨ pc ≠ address
    · obtain ⟨htable, harrivals, -⟩ := step_elsewhere condition cpu opcode htallied.sound
        helse
      have hfalse : ∀ {P : Prop}, pc = address → h.debugger.paused = false → P := by
        intro P hpc hruns
        exact absurd helse (by simp [hpc, hruns])
      refine ⟨fun _ => ⟨?_, hfalse⟩, fun _ => hfalse⟩
      intro bp hbp
      rw [htable] at hbp
      rw [harrivals]
      exact (htallied.counts bp hbp).2.2.1
    · obtain ⟨hrunning, hpc⟩ := not_or.mp helse
      have hruns := Bool.eq_false_iff.mpr hrunning
      cases not_not.mp hpc
      obtain ⟨htable, harrivals, -⟩ := step_there condition cpu opcode htallied.sound
        hruns
      have hhalts := hook_halts cpu address opcode hruns htallied.sound
      unfold ReportedWhereStopped Counts
      rw [htable, harrivals]
      cases hbp : breakpointAt h.debugger address with
      | none =>
        rw [Option.bind_none, ite_self]
        exact ⟨fun _ => ⟨nofun, fun _ _ hsome => absurd hsome (by simp)⟩, fun _ _ _ => nofun⟩
      | some bp =>
        obtain ⟨henabled, hcondition, hcount, hignore⟩ := htallied.counts bp hbp
        have heval : Evaluates bp.condition cpu := by
          rw [hcondition]
          exact hleaves rfl
        obtain ⟨hshould, hcount', -⟩ := breakpointShouldHalt_spec cpu henabled heval
        rw [hcondition, hignore, Nat.sub_eq_zero_iff_le] at hshould
        have hlooked : (∃ bp ∈ breakpointAt h.debugger address, (breakpointShouldHalt cpu bp).1 = true) ↔
            conditionHolds condition cpu = true ∧ ignoreCount.toNat ≤ h.satisfied := by
          rw [hbp, ← hshould]
          simp
        rw [hlooked] at hhalts
        have hstopped : h.stopped = some address ↔ h.arrives address address = false := by simp [History.arrives]
        simp only [hhalts, forall_const, hruns, hstopped, Option.mem_some_iff, forall_eq', Option.isSome_some,
          Option.bind_some]
        cases hexempt : exempt h.debugger address with
        | true =>
          cases harrives : h.arrives address address with
          | true =>
            -- hidden: the arrival is not counted
            refine iff_of_false (fun hwhere => absurd hwhere.1 (by simp)) fun hcounts => ?_
            have hhidden := hcounts.1 bp rfl
            rw [hcount, Bool.toNat_true] at hhidden
            omega
          | false =>
            refine iff_of_true ⟨by simp, nofun⟩ ⟨?_, by simp⟩
            rintro bp' ⟨⟩
            exact hcount
        | false =>
          simp only [if_neg Bool.false_ne_true, mem_looked]
          cases harrives : h.arrives address address with
          | true =>
            rw [Bool.toNat_true]
            constructor
            · rintro ⟨-, hroom⟩
              refine ⟨?_, by simp⟩
              rintro bp' ⟨hstays, rfl⟩
              rw [hcount']
              exact (hitCount_succ hcount).1.mpr (hroom rfl hstays)
            · rintro ⟨hcounted, -⟩
              refine ⟨by simp, fun _ hstays => ?_⟩
              have hcounted := hcounted _ ⟨hstays, rfl⟩
              rw [hcount'] at hcounted
              exact (hitCount_succ hcount).1.mp hcounted
          | false =>
            -- counted again: the machine halts where it was stopped, or the count is one too many
            refine iff_of_false (fun hwhere => absurd hwhere.1 (by simp)) ?_
            rintro ⟨hcounted, hhalts⟩
            have hnot : (breakpointShouldHalt cpu bp).1 = false :=
              Bool.eq_false_iff.mpr fun hhalt => absurd (hhalts.mp ⟨trivial, hshould.mp hhalt⟩).1 Bool.false_ne_true
            have hcounted := hcounted _ ⟨by rw [hnot, Bool.false_and], rfl⟩
            rw [hcount'] at hcounted
            exact (hitCount_succ hcount).2 hcounted
  | _ =>
    refine ⟨fun _ => ⟨?_, trivial⟩, fun _ => trivial⟩
    have htable := breakpointAt_apply htallied.sound huser hleaves nofun
    intro bp hbp
    exact (htallied.counts bp (htable ▸ hbp)).2.2.1

omit htallied

lemma tallied_set (oneShot : Bool) {ops : List Op} (huser : ∀ op ∈ ops, UserPauses op) :
    Tallied address (keptCondition condition) ignoreCount
      (breakpointSet address condition ignoreCount oneShot ops) := by
  have hsound : Sound (Runs.exec (History.step address (keptCondition condition)) {} ops).debugger :=
    Runs.exec_inv (I := fun h : History => Sound h.debugger) (C := fun _ op => UserPauses op)
      (fun _ _ hsound hop => sound_step hsound hop) ops {}
      ⟨distinct_nil, show PauseReason.none ≠ .breakpoint from nofun⟩ (Runs.along_of_forall (P := fun _ op => UserPauses op) fun op hop _ => huser op hop)
  unfold breakpointSet
  rw [Runs.exec_append]
  refine ⟨hsound.addBreakpointEx address condition ignoreCount oneShot, fun bp hbp => ?_⟩
  cases breakpointAt_added condition ignoreCount oneShot bp hbp
  exact ⟨rfl, rfl, rfl, rfl⟩

/-- **Every arrival counts once** along a run, exactly when at each call of the hook for the breakpoint's address
the machine was let go of where it was stopped. -/
theorem arrivals_counted (oneShot : Bool) (ops ops' : List Op) (huser : ∀ op ∈ ops, UserPauses op)
    (hallowed : ∀ op ∈ ops', Allowed address (keptCondition condition) op) :
    Runs.Along (History.step address (keptCondition condition)) (ReportedWhereStopped address)
        (breakpointSet address condition ignoreCount oneShot ops) ops' ↔
      Runs.Along (History.step address (keptCondition condition))
        (Counts address (keptCondition condition) ignoreCount)
        (breakpointSet address condition ignoreCount oneShot ops) ops' :=
  Runs.along_iff_of_allowed (L := fun _ op => Allowed address (keptCondition condition) op)
    (fun _ _ htallied hop hwhere => tallied_step htallied hop hwhere) (fun _ _ htallied hop => counts_iff htallied hop)
    ops' _ (tallied_set oneShot huser) (Runs.along_of_forall fun op hop _ => hallowed op hop)

end Run

/-! ## A data abort at its vector -/

/-- Data aborts are trapped, the debugger is asked for a breakpoint at the data abort vector that ignores its first
arrival, and the instruction at `0x8000` aborts. -/
def trapsDataAborts : List Op := [.setTraceConfig (some { trapDataAbort := true, swiFilterMax := 0xffffffff })]

theorem arrivals_counted_loop :
    Runs.Along (History.step 0x10 none) (Counts 0x10 none 1) (breakpointSet 0x10 none 1 false [])
      [.instructionHook quietCpu 0x10 0xe1a00000, .instructionHook quietCpu 0x10 0xe1a00000, .resume,
        .instructionHook quietCpu 0x10 0xe1a00000, .instructionHook quietCpu 0x14 0xe1a00000] := by
  refine (@arrivals_counted 0x10 none 1 false [] _ (by simp) ?_).mp ?_
  · simp [Allowed, UserPauses, LeavesSet, Evaluates, keptCondition]
  · decide

theorem arrivals_counted_twice :
    (∀ op ∈ trapsDataAborts, UserPauses op) ∧
      (∀ op ∈ [Op.instructionHook quietCpu 0x8000 0xe5910000, .exceptionHook quietCpu 0x14 0x8000,
        .instructionHook quietCpu 0x10 0xea000000, .resume, .instructionHook quietCpu 0x10 0xea000000],
        Allowed 0x10 none op) ∧
      ¬Runs.Along (History.step 0x10 none) (Counts 0x10 none 1) (breakpointSet 0x10 none 1 false trapsDataAborts)
        [.instructionHook quietCpu 0x8000 0xe5910000, .exceptionHook quietCpu 0x14 0x8000,
          .instructionHook quietCpu 0x10 0xea000000, .resume, .instructionHook quietCpu 0x10 0xea000000] := by
  refine ⟨?_, ?_, ?_⟩
  · simp [trapsDataAborts, UserPauses]
  · simp [Allowed, UserPauses, LeavesSet, Evaluates]
  · decide

end RpcEmu.Debugger
