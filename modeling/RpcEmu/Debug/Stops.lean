import RpcEmu.Debug.Gate

/-!
# What a step gives way to

Between two calls of the instruction hook a core executes an instruction: the hooks are told of its accesses,
exceptions and SWIs (`body`), `debugger_after_instruction` counts it, and then come a data abort, an
interrupt, prefetch aborts, and what the user asks for (`tail`).

* **`Asks`** is what the machine has been asked, and `take` what a cause that fires does to it; every hook is
  one `take` or none (`asks_apply`).
* **The gap.**  There is one slot for the reason.  A step that ends writes itself over a cause that has fired,
  and where it is then filtered the stop is lost with it; and a trap does not fire over a step that has
  ended.
-/

namespace RpcEmu.Debugger

/-! ## What happens during an instruction -/

inductive Event
  | memoryAccess (cpu : Cpu) (address size : UInt32) (isWrite : Bool) (value : UInt32)
  | exception (cpu : Cpu) (address pc : UInt32)
  | swi (cpu : Cpu) (swinum opcode : UInt32)
  | badMode (cpu : Cpu) (mode pc : UInt32)
  | breakSwi (cpu : Cpu) (pc : UInt32)
  | userPause

def Event.op : Event → Op
  | .memoryAccess cpu address size isWrite value => .memoryAccess cpu address size isWrite value
  | .exception cpu address pc => .exceptionHook cpu address pc
  | .swi cpu swinum opcode => .swiHook cpu swinum opcode
  | .badMode cpu mode pc => .badMode cpu mode pc
  | .breakSwi cpu pc => .breakSwi cpu pc
  | .userPause => .requestPause .user

def happen (d : State) (es : List Event) : State := es.foldl (fun d e => apply d e.op) d

/-- A core's call of `debugger_after_instruction`. -/
def countInstruction (d : State) (opcode : UInt32) : State :=
  if d.hookActive then afterInstruction d opcode else d

def execute (d : State) (body : List Event) (opcode : UInt32) (tail : List Event) : State :=
  happen (countInstruction (happen d body) opcode) tail

/-! ## Causes -/

/-- The cause that fires: a watchpoint that halts, a trapped exception, a halting SWI trap, what the machine
is halted for at once, or the user. -/
def fires (d : State) : Event → Option PauseReason
  | .memoryAccess _ address size isWrite _ =>
    if d.watchpoints.any fun wp =>
        watchpointMatches wp address (if size = 0 then 1 else size) isWrite && !wp.logOnly then
      some .watchpoint
    else none
  | .exception _ address _ => if (trapOf d address).any Prod.snd then some .exception else none
  | .swi _ swinum _ =>
    if d.traceConfig.swiTraceHalt && !(decide (swinum < d.traceConfig.swiFilterMin) ||
        decide (d.traceConfig.swiFilterMax < swinum)) then some .swi
    else none
  | .badMode cpu _ _ => if cpu.debugEnabled then some .badMode else none
  | .breakSwi cpu _ => if cpu.debugEnabled then some .breakSwi else none
  | .userPause => some .user

def fired (d : State) (es : List Event) : List PauseReason := es.filterMap (fires d)

def breakpointHalts (d : State) (cpu : Cpu) (pc : UInt32) : Bool :=
  match (breakpointIndex d pc).bind fun i => d.breakpoints[i]? with
  | some bp => (breakpointShouldHalt cpu bp).1
  | none => false

def causes (d : State) (body tail : List Event) (cpu : Cpu) (pc : UInt32) : List PauseReason :=
  fired d (body ++ tail) ++ (if breakpointHalts d cpu pc then [.breakpoint] else [])

/-- **An explicit stop is reported**: where there is something to stop for, the next call of the hook stops
the machine and reports it. -/
def StopReported (d : State) (body : List Event) (opcode : UInt32) (tail : List Event) (cpu : Cpu)
    (pc opcode' : UInt32) : Prop :=
  causes d body tail cpu pc ≠ [] →
    (instructionHook (execute d body opcode tail) cpu pc opcode').1 = true ∧
      (instructionHook (execute d body opcode tail) cpu pc opcode').2.pauseReason ∈ causes d body tail cpu pc

/-! ## What the machine has been asked -/

structure Asks where
  paused : Bool
  pauseRequested : Bool
  pendingReason : PauseReason
  pauseReason : PauseReason
  stepRemaining : UInt32

def asks (d : State) : Asks := ⟨d.paused, d.pauseRequested, d.pendingReason, d.pauseReason, d.stepRemaining⟩

def Asks.take (a : Asks) : PauseReason → Asks
  | .watchpoint =>
    if a.pauseRequested && a.pendingReason == .watchpoint then a
    else { a with pauseRequested := true, pendingReason := .watchpoint, stepRemaining := 0 }
  | .user =>
    if a.paused then { a with pauseReason := .user }
    else { a with pauseRequested := true, pendingReason := .user }
  | .badMode => if a.paused then a else ⟨true, false, .none, .badMode, 0⟩
  | .breakSwi => if a.paused then a else ⟨true, false, .none, .breakSwi, 0⟩
  | reason =>
    if a.paused || a.pauseRequested then a else { a with pauseRequested := true, pendingReason := reason }

/-- The debugger is set up as it was. -/
structure SameSetup (d d' : State) : Prop where
  breakpoints : d'.breakpoints = d.breakpoints
  watchpoints : d'.watchpoints = d.watchpoints
  traceConfig : d'.traceConfig = d.traceConfig
  lastPc : d'.lastPc = d.lastPc
  resumeSkipActive : d'.resumeSkipActive = d.resumeSkipActive
  tempBp : d'.tempBpActive = d.tempBpActive ∧ d'.tempBpAddress = d.tempBpAddress

section Asks

variable {d : State}

lemma SameSetup.refl (d : State) : SameSetup d d := ⟨rfl, rfl, rfl, rfl, rfl, rfl, rfl⟩

lemma SameSetup.trans {d' d'' : State} (h : SameSetup d d') (h' : SameSetup d' d'') : SameSetup d d'' :=
  ⟨h'.breakpoints.trans h.breakpoints, h'.watchpoints.trans h.watchpoints, h'.traceConfig.trans h.traceConfig,
    h'.lastPc.trans h.lastPc, h'.resumeSkipActive.trans h.resumeSkipActive,
    h'.tempBp.1.trans h.tempBp.1, h'.tempBp.2.trans h.tempBp.2⟩

lemma asks_traceIf (wanted : Bool) (type : TraceEventType) (pc opcode arg0 arg1 arg2 : UInt32) :
    asks (traceIf d wanted type pc opcode arg0 arg1 arg2) = asks d ∧
      SameSetup d (traceIf d wanted type pc opcode arg0 arg1 arg2) := by
  unfold traceIf tracePush
  split
  · dsimp only
    split <;> exact ⟨rfl, rfl, rfl, rfl, rfl, rfl, rfl, rfl⟩
  · exact ⟨rfl, SameSetup.refl d⟩

lemma asks_tracePush (type : TraceEventType) (pc opcode arg0 arg1 arg2 : UInt32) :
    asks (tracePush d type pc opcode arg0 arg1 arg2) = asks d ∧
      SameSetup d (tracePush d type pc opcode arg0 arg1 arg2) := asks_traceIf true type pc opcode arg0 arg1 arg2

lemma asks_watch (cpu : Cpu) (address size : UInt32) (isWrite : Bool) (value : UInt32) (wps : List Watchpoint) :
    (asks (watch cpu address size isWrite value wps d) =
        if wps.any fun wp => watchpointMatches wp address size isWrite && !wp.logOnly then
          { asks d with pauseRequested := true, pendingReason := .watchpoint, stepRemaining := 0 }
        else asks d) ∧
      SameSetup d (watch cpu address size isWrite value wps d) := by
  induction wps generalizing d with
  | nil => exact ⟨rfl, SameSetup.refl d⟩
  | cons wp wps ih =>
    rw [watch, List.any_cons]
    cases hmatches : watchpointMatches wp address size isWrite with
    | false => exact ih
    | true =>
      cases hlog : wp.logOnly with
      | false => exact ⟨rfl, rfl, rfl, rfl, rfl, rfl, rfl, rfl⟩
      | true =>
        obtain ⟨hasks, hsame⟩ := asks_tracePush (d := d) .watchpoint (cpu.env.readReg 15) 0 address value
          ((size <<< 1) ||| (if isWrite then 1 else 0))
        have ih := ih (d := tracePush d .watchpoint (cpu.env.readReg 15) 0 address value
          ((size <<< 1) ||| (if isWrite then 1 else 0)))
        rw [hasks] at ih
        exact ⟨ih.1, hsame.trans ih.2⟩

lemma asks_traceException (cpu : Cpu) (kind pc : UInt32) (trap : Bool) :
    asks (traceException d cpu kind pc trap) = asks d ∧ SameSetup d (traceException d cpu kind pc trap) :=
  asks_traceIf _ _ _ _ _ _ _

lemma asks_defer (reason : PauseReason) {t t' : State} (ht : asks t = asks d)
    (ht' : asks t' = { asks t with pauseRequested := true, pendingReason := reason })
    (htake : ∀ a : Asks, a.take reason =
      if a.paused || a.pauseRequested then a else { a with pauseRequested := true, pendingReason := reason })
    (trap : Bool) :
    asks (if trap && !t.paused && !t.pauseRequested then t' else t) =
      if trap then (asks d).take reason else asks d := by
  cases trap with
  | false => exact ht
  | true =>
    have htake := htake (asks t)
    rw [ht] at htake ht'
    rw [if_pos rfl, htake, ← ht, Bool.true_and, ← Bool.not_or]
    cases hbusy : t.paused || t.pauseRequested with
    | true =>
      rw [if_neg (by simp)]
      exact (if_pos hbusy).symm
    | false =>
      rw [if_pos (by simp), ht', ← ht]
      exact (if_neg (by simp [asks, hbusy])).symm

lemma asks_memoryAccess (cpu : Cpu) (address size : UInt32) (isWrite : Bool) (value : UInt32) :
    asks (memoryAccess d cpu address size isWrite value) =
        (if d.watchpoints.any fun wp =>
            watchpointMatches wp address (if size = 0 then 1 else size) isWrite && !wp.logOnly then
          (asks d).take .watchpoint
        else asks d) ∧
      SameSetup d (memoryAccess d cpu address size isWrite value) := by
  unfold memoryAccess
  by_cases hnone : d.watchpoints.length = 0
  · rw [if_pos hnone, List.eq_nil_of_length_eq_zero hnone]
    exact ⟨rfl, SameSetup.refl d⟩
  · rw [if_neg hnone]
    cases hpending : d.pauseRequested && d.pendingReason == .watchpoint with
    | true =>
      have htake : (asks d).take .watchpoint = asks d := if_pos hpending
      rw [if_pos rfl, htake, ite_self]
      exact ⟨rfl, SameSetup.refl d⟩
    | false =>
      have htake : (asks d).take .watchpoint =
          { asks d with pauseRequested := true, pendingReason := .watchpoint, stepRemaining := 0 } :=
        if_neg (by simpa [asks] using hpending)
      rw [if_neg Bool.false_ne_true, htake]
      exact asks_watch cpu address (if size = 0 then 1 else size) isWrite value d.watchpoints

lemma asks_exceptionHook (cpu : Cpu) (address pc : UInt32) :
    asks (exceptionHook d cpu address pc) =
        (if (trapOf d address).any Prod.snd then (asks d).take .exception else asks d) ∧
      SameSetup d (exceptionHook d cpu address pc) := by
  unfold exceptionHook
  cases trapOf d address with
  | none => exact ⟨rfl, SameSetup.refl d⟩
  | some kindTrap =>
    obtain ⟨kind, trap⟩ := kindTrap
    obtain ⟨hasks, hsame⟩ := asks_traceException (d := d) cpu kind pc trap
    refine ⟨asks_defer .exception hasks rfl (fun _ => rfl) trap, ?_⟩
    dsimp only
    split
    · exact hsame.trans ⟨rfl, rfl, rfl, rfl, rfl, rfl, rfl⟩
    · exact hsame

lemma asks_swiHook (cpu : Cpu) (swinum opcode : UInt32) :
    asks (swiHook d cpu swinum opcode) =
        (if d.traceConfig.swiTraceHalt && !(decide (swinum < d.traceConfig.swiFilterMin) ||
            decide (d.traceConfig.swiFilterMax < swinum)) then (asks d).take .swi
        else asks d) ∧
      SameSetup d (swiHook d cpu swinum opcode) := by
  unfold swiHook
  by_cases hfilter : swinum < d.traceConfig.swiFilterMin || d.traceConfig.swiFilterMax < swinum
  · rw [if_pos hfilter, hfilter, Bool.not_true, Bool.and_false]
    exact ⟨rfl, SameSetup.refl d⟩
  · obtain ⟨hasks, hsame⟩ := asks_traceIf (d := d) d.traceConfig.swiTraceEnabled .swi (cpu.env.readReg 15)
      opcode swinum (cpu.env.readReg 0) cpu.env.readCpsr
    rw [if_neg hfilter, Bool.eq_false_iff.mpr hfilter, Bool.not_false, Bool.and_true]
    refine ⟨(asks_defer .swi hasks rfl (fun _ => rfl) _).trans ?_, ?_⟩
    · rw [hsame.traceConfig]
    dsimp only
    split
    · exact hsame.trans ⟨rfl, rfl, rfl, rfl, rfl, rfl, rfl⟩
    · exact hsame

lemma asks_halt {t : State} {reason : PauseReason} (ht : asks t = asks d ∧ SameSetup d t)
    (htake : ∀ a : Asks, a.take reason = if a.paused then a else ⟨true, false, .none, reason, 0⟩)
    (pc opcode : UInt32) (debugEnabled : Bool) :
    asks (if debugEnabled then if t.paused then (true, t) else (true, enterPause t reason pc opcode)
        else (false, t)).2 = (if debugEnabled then (asks d).take reason else asks d) ∧
      SameSetup d (if debugEnabled then if t.paused then (true, t) else (true, enterPause t reason pc opcode)
        else (false, t)).2 := by
  cases debugEnabled with
  | false => exact ht
  | true =>
    rw [if_pos rfl, if_pos rfl, htake, ← ht.1]
    by_cases hpaused : t.paused = true
    · rw [if_pos hpaused]
      exact ⟨(if_pos hpaused).symm, ht.2⟩
    · rw [if_neg hpaused]
      exact ⟨(if_neg hpaused).symm, ht.2.trans ⟨rfl, rfl, rfl, rfl, rfl, rfl, rfl⟩⟩

lemma asks_requestPause :
    asks (requestPause d .user) = (asks d).take .user ∧ SameSetup d (requestPause d .user) := by
  unfold requestPause
  by_cases hpaused : d.paused = true
  · rw [if_pos hpaused]
    exact ⟨(if_pos hpaused).symm, rfl, rfl, rfl, rfl, rfl, rfl, rfl⟩
  · rw [if_neg hpaused]
    exact ⟨(if_neg hpaused).symm, rfl, rfl, rfl, rfl, rfl, rfl, rfl⟩

/-- **Every event** is a cause taken, or changes nothing that is asked. -/
lemma asks_apply (e : Event) :
    asks (apply d e.op) = (fires d e).elim (asks d) (asks d).take ∧ SameSetup d (apply d e.op) := by
  have helim : ∀ (b : Bool) (reason : PauseReason),
      (if b then some reason else none).elim (asks d) (asks d).take =
        if b then (asks d).take reason else asks d := by
    intro b reason
    cases b <;> rfl
  cases e with
  | memoryAccess cpu address size isWrite value =>
    rw [fires, helim]
    exact asks_memoryAccess cpu address size isWrite value
  | exception cpu address pc =>
    rw [fires, helim]
    exact asks_exceptionHook cpu address pc
  | swi cpu swinum opcode =>
    rw [fires, helim]
    exact asks_swiHook cpu swinum opcode
  | badMode cpu mode pc =>
    rw [fires, helim]
    exact asks_halt (asks_tracePush .exception pc 0 3 mode 0) (fun _ => rfl) pc 0 cpu.debugEnabled
  | breakSwi cpu pc =>
    rw [fires, helim]
    exact asks_halt (asks_tracePush .swi pc 0 0x00ffffff (cpu.env.readReg 0) cpu.env.readCpsr) (fun _ => rfl)
      pc 0xefffffff cpu.debugEnabled
  | userPause => exact asks_requestPause

end Asks

/-! ## Causes one after another -/

def forces : PauseReason → Bool
  | .watchpoint | .user | .badMode | .breakSwi => true
  | _ => false

def endsStep : PauseReason → Bool
  | .watchpoint | .badMode | .breakSwi => true
  | _ => false

def haltsAtOnce : PauseReason → Bool
  | .badMode | .breakSwi => true
  | _ => false

def isCause : PauseReason → Bool
  | .watchpoint | .exception | .swi | .user | .badMode | .breakSwi => true
  | _ => false

def Asks.takes (a : Asks) (reasons : List PauseReason) : Asks := reasons.foldl Asks.take a

/-- It has stopped, or is about to, for one of the reasons. -/
def Stops (reasons : List PauseReason) (a : Asks) : Prop :=
  (a.paused = true ∧ a.pauseReason ∈ reasons) ∨
    (a.paused = false ∧ a.pauseRequested = true ∧ a.pendingReason ∈ reasons)

/-- It is about to stop for a step. -/
def Stepped (a : Asks) : Prop := a.paused = false ∧ a.pauseRequested = true ∧ a.pendingReason = .step

/-- A stop leaves no steps to go. -/
def Spent (a : Asks) : Prop :=
  a.paused = true ∨ (a.pauseRequested = true ∧ a.pendingReason = .watchpoint) → a.stepRemaining = 0

section Takes

variable {a : Asks} {reasons : List PauseReason} {reason : PauseReason}

lemma stops_take (h : Stops reasons a) (hcause : isCause reason = true) (hmem : reason ∈ reasons) :
    Stops reasons (a.take reason) := by
  unfold Stops at h ⊢
  cases reason with
  | none | step | breakpoint => cases hcause
  | _ =>
    simp only [Asks.take]
    split <;> grind

lemma stops_take_self (hcause : isCause reason = true)
    (h : a.paused = false ∧ a.pauseRequested = false ∨ Stepped a ∧ forces reason = true) :
    Stops [reason] (a.take reason) := by
  unfold Stops
  unfold Stepped at h
  cases reason with
  | none | step | breakpoint => cases hcause
  | _ =>
    simp only [Asks.take, forces] at h ⊢
    split <;> grind

lemma stepped_take (h : Stepped a) (hcause : isCause reason = true) (hforces : forces reason = false) :
    a.take reason = a := by
  unfold Stepped at h
  cases reason with
  | none | step | breakpoint => cases hcause
  | exception | swi => exact if_pos (by simp [h.2.1])
  | _ => cases hforces

lemma paused_take (hcause : isCause reason = true) :
    (a.take reason).paused = (a.paused || haltsAtOnce reason) := by
  cases reason with
  | none | step | breakpoint => cases hcause
  | _ =>
    simp only [Asks.take, haltsAtOnce]
    split <;> grind

lemma stepRemaining_take (h : Spent a) (hcause : isCause reason = true) :
    Spent (a.take reason) ∧
      (a.take reason).stepRemaining = if endsStep reason then 0 else a.stepRemaining := by
  unfold Spent at h ⊢
  cases reason with
  | none | step | breakpoint => cases hcause
  | _ =>
    simp only [Asks.take, endsStep]
    split <;> grind

/-! ### Runs of causes -/

lemma stops_takes {rs : List PauseReason} (h : Stops reasons a)
    (hcauses : ∀ r ∈ rs, isCause r = true ∧ r ∈ reasons) : Stops reasons (a.takes rs) := by
  induction rs generalizing a with
  | nil => exact h
  | cons r rs ih =>
    obtain ⟨hcause, hmem⟩ := hcauses r List.mem_cons_self
    exact ih (stops_take h hcause hmem) fun r' hr' => hcauses r' (List.mem_cons_of_mem r hr')

lemma Stops.mono {rs : List PauseReason} (h : Stops rs a) (hsub : rs ⊆ reasons) : Stops reasons a :=
  h.imp (fun h => ⟨h.1, hsub h.2⟩) fun h => ⟨h.1, h.2.1, hsub h.2.2⟩

lemma stops_of_running {rs : List PauseReason} (hruns : a.paused = false ∧ a.pauseRequested = false)
    (hcauses : ∀ r ∈ rs, isCause r = true) (hsome : rs ≠ []) : Stops rs (a.takes rs) := by
  obtain ⟨r, rs, rfl⟩ := List.exists_cons_of_ne_nil hsome
  have hfirst := stops_take_self (hcauses r List.mem_cons_self) (.inl hruns)
  show Stops (r :: rs) ((a.take r).takes rs)
  refine stops_takes (hfirst.mono (List.cons_subset.mpr ⟨List.mem_cons_self, List.nil_subset _⟩)) ?_
  exact fun r' hr' => ⟨hcauses r' (List.mem_cons_of_mem r hr'), List.mem_cons_of_mem r hr'⟩

lemma takes_of_stepped {rs : List PauseReason} (h : Stepped a) (hcauses : ∀ r ∈ rs, isCause r = true) :
    (rs.any forces = true ∧ Stops rs (a.takes rs)) ∨ (rs.any forces = false ∧ a.takes rs = a) := by
  induction rs with
  | nil => exact .inr ⟨rfl, rfl⟩
  | cons r rs ih =>
    have hcause := hcauses r List.mem_cons_self
    have hrest : ∀ r' ∈ rs, isCause r' = true := fun r' hr' => hcauses r' (List.mem_cons_of_mem r hr')
    cases hforces : forces r with
    | true =>
      have hfirst := stops_take_self hcause (.inr ⟨h, hforces⟩)
      refine .inl ⟨by simp [hforces], ?_⟩
      show Stops (r :: rs) ((a.take r).takes rs)
      refine stops_takes (hfirst.mono (List.cons_subset.mpr ⟨List.mem_cons_self, List.nil_subset _⟩)) ?_
      exact fun r' hr' => ⟨hrest r' hr', List.mem_cons_of_mem r hr'⟩
    | false =>
      have htake : a.takes (r :: rs) = a.takes rs := by
        show (a.take r).takes rs = a.takes rs
        rw [stepped_take h hcause hforces]
      rw [htake, List.any_cons, hforces, Bool.false_or]
      refine (ih hrest).imp (fun hstops => ⟨hstops.1, ?_⟩) id
      exact hstops.2.mono fun r' hr' => List.mem_cons_of_mem r hr'

lemma paused_takes {rs : List PauseReason} (hcauses : ∀ r ∈ rs, isCause r = true) :
    (a.takes rs).paused = (a.paused || rs.any haltsAtOnce) := by
  induction rs generalizing a with
  | nil => exact (Bool.or_false _).symm
  | cons r rs ih =>
    show ((a.take r).takes rs).paused = _
    rw [ih fun r' hr' => hcauses r' (List.mem_cons_of_mem r hr'), paused_take (hcauses r List.mem_cons_self),
      List.any_cons, Bool.or_assoc]

lemma stepRemaining_takes {rs : List PauseReason} (h : Spent a) (hcauses : ∀ r ∈ rs, isCause r = true) :
    (a.takes rs).stepRemaining = if rs.any endsStep then 0 else a.stepRemaining := by
  induction rs generalizing a with
  | nil => rfl
  | cons r rs ih =>
    obtain ⟨hspent, hremaining⟩ := stepRemaining_take h (hcauses r List.mem_cons_self)
    show ((a.take r).takes rs).stepRemaining = _
    rw [ih hspent fun r' hr' => hcauses r' (List.mem_cons_of_mem r hr'), hremaining, List.any_cons]
    cases endsStep r <;> simp

end Takes

/-! ## Events one after another -/

section Happen

variable {d s : State}

lemma isCause_of_fires {e : Event} {reason : PauseReason} (h : fires d e = some reason) :
    isCause reason = true := by
  cases e with
  | userPause =>
    cases h
    rfl
  | _ =>
    obtain ⟨-, hreason⟩ := Option.ite_none_right_eq_some.mp h
    cases hreason
    rfl

lemma isCause_of_fired {es : List Event} {reason : PauseReason} (h : reason ∈ fired d es) :
    isCause reason = true := by
  obtain ⟨e, -, he⟩ := List.mem_filterMap.mp h
  exact isCause_of_fires he

lemma fires_congr (hwatch : d.watchpoints = s.watchpoints) (hconfig : d.traceConfig = s.traceConfig) (e : Event) :
    fires d e = fires s e := by
  have htrap : ∀ address, trapOf d address = trapOf s address := by
    intro address
    unfold trapOf
    rw [hconfig]
  cases e with
  | memoryAccess | swi => simp only [fires, hwatch, hconfig]
  | exception => simp only [fires, htrap]
  | badMode | breakSwi | userPause => rfl

/-- **Events one after another** are the causes that fire, one after another. -/
lemma asks_happen (hwatch : d.watchpoints = s.watchpoints) (hconfig : d.traceConfig = s.traceConfig)
    (es : List Event) :
    asks (happen d es) = (asks d).takes (fired s es) ∧ SameSetup d (happen d es) := by
  induction es generalizing d with
  | nil => exact ⟨rfl, SameSetup.refl d⟩
  | cons e es ih =>
    obtain ⟨hasks, hsame⟩ := asks_apply (d := d) e
    obtain ⟨hrest, hsame'⟩ := ih (hsame.watchpoints.trans hwatch) (hsame.traceConfig.trans hconfig)
    refine ⟨?_, hsame.trans hsame'⟩
    have hfired : fired s (e :: es) = (fires s e).toList ++ fired s es := by
      rw [fired, List.filterMap_cons]
      cases fires s e <;> rfl
    refine Eq.trans hrest ?_
    rw [hasks, hfired, fires_congr hwatch hconfig e]
    cases fires s e <;> rfl

lemma fresh_happen (h : Fresh d) (es : List Event) : Fresh (happen d es) := by
  induction es generalizing d with
  | nil => exact h
  | cons e es ih => exact ih (h.apply e.op)

end Happen

/-! ## The end of the instruction -/

section Count

variable {d : State} {opcode : UInt32}

def swiRunsOn (d : State) (opcode : UInt32) : Bool :=
  d.traceConfig.stepSkipSwi && opcode &&& 0x0f000000 == 0x0f000000 && !(d.paused || d.pauseRequested)

/-- Only counts of steps and what is asked have moved. -/
structure Counted (d t : State) : Prop where
  paused : t.paused = d.paused
  pauseReason : t.pauseReason = d.pauseReason
  breakpoints : t.breakpoints = d.breakpoints
  watchpoints : t.watchpoints = d.watchpoints
  traceConfig : t.traceConfig = d.traceConfig
  resumeSkipActive : t.resumeSkipActive = d.resumeSkipActive

lemma counted (d : State) (opcode : UInt32) : Counted d (countInstruction d opcode) := by
  unfold countInstruction afterInstruction stepRunsTheSwiOn
  dsimp only
  split_ifs <;> exact ⟨rfl, rfl, rfl, rfl, rfl, rfl⟩

lemma count_goesOn (h : d.stepRemaining ≠ 1) (opcode : UInt32) :
    (countInstruction d opcode).pauseRequested = d.pauseRequested ∧
      (countInstruction d opcode).pendingReason = d.pendingReason ∧
      (countInstruction d opcode).tempBpActive = d.tempBpActive ∧
      (countInstruction d opcode).tempBpAddress = d.tempBpAddress := by
  have hne : d.stepRemaining - 1 ≠ 0 := fun hz => h (by rw [← UInt32.sub_add_cancel d.stepRemaining 1, hz]; rfl)
  unfold countInstruction afterInstruction
  dsimp only
  rw [if_neg hne]
  split_ifs <;> exact ⟨rfl, rfl, rfl, rfl⟩

lemma count_at_end (hfresh : Fresh d) (h : d.stepRemaining = 1) {runsOn : Bool} {t : State}
    (hruns : stepRunsTheSwiOn { d with stepRemaining := d.stepRemaining - 1 } opcode = (runsOn, t)) :
    (countInstruction d opcode).pauseRequested = (if runsOn then t.pauseRequested else true) ∧
      (countInstruction d opcode).pendingReason = (if runsOn then t.pendingReason else .step) ∧
      (countInstruction d opcode).tempBpActive = t.tempBpActive ∧
      (countInstruction d opcode).tempBpAddress = t.tempBpAddress := by
  have hactive : d.hookActive = true := by
    rw [hfresh]
    simp [computeHookActive, h]
  have hend : d.stepRemaining - 1 = 0 := by
    rw [h]
    rfl
  unfold countInstruction afterInstruction
  rw [if_pos hactive, if_pos (by rw [h]; decide)]
  dsimp only
  rw [if_pos hend, hruns]
  cases runsOn <;> exact ⟨rfl, rfl, rfl, rfl⟩

lemma count_ends (hfresh : Fresh d) (h : d.stepRemaining = 1) (hruns : swiRunsOn d opcode = false) :
    (countInstruction d opcode).pauseRequested = true ∧
      (countInstruction d opcode).pendingReason = .step ∧
      (countInstruction d opcode).tempBpActive = d.tempBpActive ∧
      (countInstruction d opcode).tempBpAddress = d.tempBpAddress :=
  count_at_end hfresh h (if_neg (Bool.eq_false_iff.mp hruns))

lemma count_runsOn (hfresh : Fresh d) (h : d.stepRemaining = 1) (hruns : swiRunsOn d opcode = true) :
    (countInstruction d opcode).pauseRequested = d.pauseRequested ∧
      (countInstruction d opcode).pendingReason = d.pendingReason ∧
      (countInstruction d opcode).tempBpActive = true ∧
      (countInstruction d opcode).tempBpAddress = d.lastPc + 4 :=
  count_at_end hfresh h (if_pos hruns)

end Count

/-! ## The next call of the hook -/

section Hook

variable {d : State} (cpu : Cpu) (pc opcode : UInt32)

def stopsFor (d : State) (cpu : Cpu) (pc : UInt32) : Option PauseReason :=
  if breakpointHalts d cpu pc then some .breakpoint
  else if d.tempBpActive && d.tempBpAddress == pc then some .step
  else if d.pauseRequested then some (pendingOrUser d)
  else none

lemma hitBreakpoint_spec (skip : Bool) :
    (hitBreakpoint d cpu skip pc).paused = d.paused ∧
      (hitBreakpoint d cpu skip pc).resumeSkipActive = d.resumeSkipActive ∧
      (hitBreakpoint d cpu skip pc).pauseRequested = (!skip && breakpointHalts d cpu pc || d.pauseRequested) ∧
      (hitBreakpoint d cpu skip pc).pendingReason =
        if !skip && breakpointHalts d cpu pc then .breakpoint else d.pendingReason := by
  unfold hitBreakpoint breakpointHalts
  cases skip with
  | true => exact ⟨by simp, by simp, by simp, by simp⟩
  | false =>
    cases hindex : breakpointIndex d pc with
    | none => exact ⟨by simp, by simp, by simp, by simp⟩
    | some i =>
      obtain ⟨hi, -⟩ := List.findIdx?_eq_some_iff_getElem.mp hindex
      have hpos : (decide (0 < d.breakpoints.length) && !false) = true := by
        simpa using Nat.zero_lt_of_lt hi
      rw [if_pos hpos]
      simp only [Option.bind_some, List.getElem?_eq_getElem hi]
      cases hhalts : (breakpointShouldHalt cpu d.breakpoints[i]).1 with
      | false => exact ⟨rfl, rfl, rfl, rfl⟩
      | true =>
        rw [if_pos rfl]
        refine ⟨?_, ?_, rfl, rfl⟩ <;> dsimp only [removeBreakpoint] <;> split <;>
          first | rfl | (split <;> rfl)

lemma takePause_spec :
    (d.pauseRequested = false → takePause d cpu pc opcode = (false, d)) ∧
      (d.pauseRequested = true → pendingOrUser d ≠ .step → (takePause d cpu pc opcode).1 = true) ∧
      ((takePause d cpu pc opcode).1 = true → (takePause d cpu pc opcode).2.pauseReason = pendingOrUser d) ∧
      (d.pauseRequested = true → (takePause d cpu pc opcode).1 = false →
        (takePause d cpu pc opcode).2.pauseRequested = false ∧
          (takePause d cpu pc opcode).2.paused = d.paused ∧
          (takePause d cpu pc opcode).2.resumeSkipActive = d.resumeSkipActive) := by
  unfold takePause
  cases hrequested : d.pauseRequested with
  | false => exact ⟨fun _ => rfl, nofun, nofun, nofun⟩
  | true =>
    rw [if_pos rfl]
    dsimp only
    split
    next hfiltered =>
      refine ⟨nofun, fun _ hne => ?_, nofun, fun _ _ => ⟨rfl, rfl, rfl⟩⟩
      simp only [Bool.and_eq_true, decide_eq_true_eq] at hfiltered
      exact absurd hfiltered.1 hne
    next =>
      split
      · exact ⟨nofun, fun _ _ => rfl, fun _ => rfl, nofun⟩
      · exact ⟨nofun, fun _ _ => rfl, fun _ => rfl, nofun⟩

def arriving (d : State) (pc opcode : UInt32) : State :=
  { d with
    lastPc := pc, lastOpcode := opcode, stepActive := decide (0 < d.stepRemaining), resumeSkipActive := false }

lemma instructionHook_eq (hruns : d.paused = false) :
    instructionHook d cpu pc opcode =
      takePause (hitBreakpoint (hitTempBp (arriving d pc opcode) pc) cpu
        (d.resumeSkipActive && pc == d.resumeSkipAddress) pc) cpu pc opcode :=
  if_neg (by simp [hruns])

lemma hitTempBp_spec :
    (hitTempBp d pc).paused = d.paused ∧ (hitTempBp d pc).resumeSkipActive = d.resumeSkipActive ∧
      (hitTempBp d pc).breakpoints = d.breakpoints ∧
      (hitTempBp d pc).pauseRequested = (d.tempBpActive && d.tempBpAddress == pc || d.pauseRequested) ∧
      (hitTempBp d pc).pendingReason =
        if d.tempBpActive && d.tempBpAddress == pc then .step else d.pendingReason := by
  unfold hitTempBp
  cases htemp : d.tempBpActive && d.tempBpAddress == pc <;> exact ⟨rfl, rfl, rfl, rfl, rfl⟩

lemma breakpointHalts_congr {d' : State} (h : d'.breakpoints = d.breakpoints) :
    breakpointHalts d' cpu pc = breakpointHalts d cpu pc := by
  unfold breakpointHalts breakpointIndex
  rw [h]

lemma hook_goesOn (h : (instructionHook d cpu pc opcode).1 = false) :
    (instructionHook d cpu pc opcode).2.paused = false ∧
      (instructionHook d cpu pc opcode).2.pauseRequested = false ∧
      (instructionHook d cpu pc opcode).2.resumeSkipActive = false := by
  cases hpaused : d.paused with
  | true =>
    have hstays : instructionHook d cpu pc opcode = (true, { d with lastPc := pc, lastOpcode := opcode }) :=
      if_pos hpaused
    rw [hstays] at h
    cases h
  | false =>
    rw [instructionHook_eq cpu pc opcode hpaused] at h ⊢
    obtain ⟨hpaused', hskip', -⟩ := hitTempBp_spec (d := arriving d pc opcode) pc
    obtain ⟨hpaused'', hskip'', -⟩ := hitBreakpoint_spec (d := hitTempBp (arriving d pc opcode) pc) cpu pc
      (d.resumeSkipActive && pc == d.resumeSkipAddress)
    have hpaused := hpaused''.trans (hpaused'.trans hpaused)
    have hskip := hskip''.trans hskip'
    obtain ⟨hnone, -, -, hfiltered⟩ := takePause_spec (d := hitBreakpoint (hitTempBp (arriving d pc opcode) pc) cpu
      (d.resumeSkipActive && pc == d.resumeSkipAddress) pc) cpu pc opcode
    cases hrequested : (hitBreakpoint (hitTempBp (arriving d pc opcode) pc) cpu
      (d.resumeSkipActive && pc == d.resumeSkipAddress) pc).pauseRequested with
    | false =>
      rw [hnone hrequested]
      exact ⟨hpaused, hrequested, hskip⟩
    | true =>
      obtain ⟨hrequested', hpaused', hskip'⟩ := hfiltered hrequested h
      exact ⟨hpaused'.trans hpaused, hrequested', hskip'.trans hskip⟩

/-- **What the hook stops for** is what it reports, and unless that is a step it stops. -/
lemma hook_spec (hruns : d.paused = false) (hskip : d.resumeSkipActive = false) :
    (stopsFor d cpu pc = none → (instructionHook d cpu pc opcode).1 = false) ∧
      ∀ reason, stopsFor d cpu pc = some reason →
        (reason ≠ .step → (instructionHook d cpu pc opcode).1 = true) ∧
          ((instructionHook d cpu pc opcode).1 = true →
            (instructionHook d cpu pc opcode).2.pauseReason = reason) := by
  obtain ⟨-, -, hbps, hrequested, hpending⟩ := hitTempBp_spec (d := arriving d pc opcode) pc
  obtain ⟨-, -, hrequested', hpending'⟩ :=
    hitBreakpoint_spec (d := hitTempBp (arriving d pc opcode) pc) cpu pc false
  have hhalts : breakpointHalts (hitTempBp (arriving d pc opcode) pc) cpu pc = breakpointHalts d cpu pc :=
    breakpointHalts_congr cpu pc hbps
  rw [hhalts, hrequested] at hrequested'
  rw [hhalts, hpending] at hpending'
  have hhook : instructionHook d cpu pc opcode =
      takePause (hitBreakpoint (hitTempBp (arriving d pc opcode) pc) cpu false pc) cpu pc opcode := by
    rw [instructionHook_eq cpu pc opcode hruns, hskip]
    rfl
  rw [hhook]
  obtain ⟨hnone, hstops, hreports, -⟩ := takePause_spec
    (d := hitBreakpoint (hitTempBp (arriving d pc opcode) pc) cpu false pc) cpu pc opcode
  revert hnone hstops hreports hrequested' hpending'
  generalize hitBreakpoint (hitTempBp (arriving d pc opcode) pc) cpu false pc = t
  intro hrequested hpending hnone hstops hreports
  have hreason : ∀ reason, t.pauseRequested = true → pendingOrUser t = reason →
      (reason ≠ .step → (takePause t cpu pc opcode).1 = true) ∧
        ((takePause t cpu pc opcode).1 = true → (takePause t cpu pc opcode).2.pauseReason = reason) := by
    rintro reason hreq rfl
    exact ⟨hstops hreq, hreports⟩
  unfold stopsFor
  cases hbreakpoint : breakpointHalts d cpu pc with
  | true =>
    rw [hbreakpoint] at hrequested hpending
    refine ⟨nofun, ?_⟩
    rintro reason ⟨⟩
    exact hreason .breakpoint hrequested (by rw [pendingOrUser, hpending]; rfl)
  | false =>
    rw [hbreakpoint] at hrequested hpending
    cases htemp : d.tempBpActive && d.tempBpAddress == pc with
    | true =>
      have htemp' : ((arriving d pc opcode).tempBpActive && (arriving d pc opcode).tempBpAddress == pc) = true :=
        htemp
      rw [htemp'] at hrequested hpending
      refine ⟨nofun, ?_⟩
      rintro reason ⟨⟩
      exact hreason .step hrequested (by rw [pendingOrUser, hpending]; rfl)
    | false =>
      have htemp' : ((arriving d pc opcode).tempBpActive && (arriving d pc opcode).tempBpAddress == pc) = false :=
        htemp
      rw [htemp'] at hrequested hpending
      have hpending : t.pendingReason = d.pendingReason := hpending
      have hrequested : t.pauseRequested = d.pauseRequested := hrequested
      cases hasked : d.pauseRequested with
      | true =>
        refine ⟨nofun, ?_⟩
        rintro reason ⟨⟩
        exact hreason _ (hrequested.trans hasked) (by rw [pendingOrUser, pendingOrUser, hpending])
      | false =>
        refine ⟨fun _ => ?_, nofun⟩
        rw [hnone (hrequested.trans hasked)]

lemma stopsFor_asked {reason : PauseReason} (hbp : breakpointHalts d cpu pc = false)
    (htemp : ¬(d.tempBpActive && d.tempBpAddress == pc) = true) (hrequested : d.pauseRequested = true)
    (hpending : d.pendingReason = reason) (hsome : reason ≠ .none) : stopsFor d cpu pc = some reason := by
  rw [stopsFor, hbp, if_neg Bool.false_ne_true, if_neg htemp, if_pos hrequested, pendingOrUser, hpending,
    if_neg hsome]

end Hook

/-! ## A whole instruction -/

def runsSwiOn (d : State) (body : List Event) (opcode : UInt32) : Bool :=
  d.stepRemaining == 1 && (fired d body).isEmpty &&
    (d.traceConfig.stepSkipSwi && opcode &&& 0x0f000000 == 0x0f000000)

def stepEnds (d : State) (body : List Event) (opcode : UInt32) : Bool :=
  d.stepRemaining == 1 && !(fired d body).any endsStep && !runsSwiOn d body opcode

def tempTarget (d : State) (body : List Event) (opcode : UInt32) : Option UInt32 :=
  if runsSwiOn d body opcode then some (d.lastPc + 4)
  else if d.tempBpActive then some d.tempBpAddress
  else none

/-- The step gives way: there is nothing to stop for, or a breakpoint at the next instruction, or the machine
was halted at once; or the temporary breakpoint is elsewhere, and if the step ends, a cause that does not
wait comes after it. -/
def GivesWay (d : State) (body : List Event) (opcode : UInt32) (tail : List Event) (cpu : Cpu) (pc : UInt32) :
    Prop :=
  causes d body tail cpu pc = [] ∨ breakpointHalts d cpu pc = true ∨
    (fired d (body ++ tail)).any haltsAtOnce = true ∨
    (tempTarget d body opcode ≠ some pc ∧
      (stepEnds d body opcode = true → (fired d tail).any forces = true))

/-- The guest runs with nothing asked. -/
structure Running (d : State) : Prop where
  paused : d.paused = false
  pauseRequested : d.pauseRequested = false
  resumeSkipActive : d.resumeSkipActive = false
  fresh : Fresh d

section Instruction

variable {d : State} (h : Running d) (body : List Event) (opcode : UInt32) (tail : List Event)

include h

lemma Running.spent : Spent (asks d) := by
  rintro (hpaused | ⟨hrequested, -⟩)
  · exact absurd (h.paused.symm.trans hpaused) Bool.false_ne_true
  · exact absurd (h.pauseRequested.symm.trans hrequested) Bool.false_ne_true

lemma body_spec :
    (happen d body).stepRemaining = (if (fired d body).any endsStep then 0 else d.stepRemaining) ∧
      (happen d body).paused = (fired d body).any haltsAtOnce ∧
      (fired d body = [] → (happen d body).paused = false ∧ (happen d body).pauseRequested = false) ∧
      (fired d body ≠ [] → Stops (fired d body) (asks (happen d body))) ∧ SameSetup d (happen d body) := by
  obtain ⟨hasks, hsame⟩ := asks_happen (s := d) (d := d) rfl rfl body
  have hcauses : ∀ r ∈ fired d body, isCause r = true := fun r hr => isCause_of_fired hr
  refine ⟨?_, ?_, ?_, ?_, hsame⟩
  · exact (congrArg Asks.stepRemaining hasks).trans (stepRemaining_takes h.spent hcauses)
  · refine (congrArg Asks.paused hasks).trans ((paused_takes hcauses).trans ?_)
    rw [show (asks d).paused = false from h.paused, Bool.false_or]
  · intro hnone
    rw [hnone] at hasks
    exact ⟨(congrArg Asks.paused hasks).trans h.paused, (congrArg Asks.pauseRequested hasks).trans h.pauseRequested⟩
  · intro hsome
    rw [hasks]
    exact stops_of_running ⟨h.paused, h.pauseRequested⟩ hcauses hsome

lemma swiRunsOn_body :
    swiRunsOn (happen d body) opcode = ((fired d body).isEmpty &&
      (d.traceConfig.stepSkipSwi && opcode &&& 0x0f000000 == 0x0f000000)) := by
  obtain ⟨-, -, hnone, hsome, hsame⟩ := body_spec h body
  rw [swiRunsOn, hsame.traceConfig, Bool.and_comm]
  congr 1
  cases hfired : fired d body with
  | nil =>
    obtain ⟨hpaused, hrequested⟩ := hnone hfired
    rw [hpaused, hrequested]
    rfl
  | cons r rs =>
    rcases hsome (by simp [hfired]) with ⟨hpaused, -⟩ | ⟨-, hrequested, -⟩
    · rw [show (happen d body).paused = true from hpaused]
      rfl
    · rw [show (happen d body).pauseRequested = true from hrequested, Bool.or_true]
      rfl

lemma runsSwiOn_iff :
    runsSwiOn d body opcode = true ↔
      (happen d body).stepRemaining = 1 ∧ swiRunsOn (happen d body) opcode = true := by
  rw [swiRunsOn_body h, (body_spec h body).1, runsSwiOn, Bool.and_assoc, Bool.and_eq_true, beq_iff_eq]
  refine and_congr_left fun hruns => ?_
  rw [Bool.and_eq_true, List.isEmpty_iff] at hruns
  rw [hruns.1]
  rfl

lemma stepEnds_iff :
    stepEnds d body opcode = true ↔
      (happen d body).stepRemaining = 1 ∧ swiRunsOn (happen d body) opcode = false := by
  have hruns := runsSwiOn_iff h body opcode
  rw [(body_spec h body).1] at hruns ⊢
  unfold stepEnds
  cases hends : (fired d body).any endsStep with
  | true =>
    rw [if_pos rfl, Bool.not_true, Bool.and_false, Bool.false_and]
    exact ⟨nofun, fun hone => absurd hone.1 (by decide)⟩
  | false =>
    rw [hends, if_neg Bool.false_ne_true] at hruns
    rw [if_neg Bool.false_ne_true, Bool.not_false, Bool.and_true, Bool.and_eq_true, beq_iff_eq,
      Bool.not_eq_true', ← Bool.not_eq_true, hruns, ← Bool.not_eq_true]
    exact and_congr_right fun hone => by simp [hone]

lemma count_spec :
    (stepEnds d body opcode = true → Stepped (asks (countInstruction (happen d body) opcode))) ∧
      (stepEnds d body opcode = false →
        (countInstruction (happen d body) opcode).pauseRequested = (happen d body).pauseRequested ∧
        (countInstruction (happen d body) opcode).pendingReason = (happen d body).pendingReason) ∧
      ∀ pc, ((countInstruction (happen d body) opcode).tempBpActive &&
        (countInstruction (happen d body) opcode).tempBpAddress == pc) = true ↔
          tempTarget d body opcode = some pc := by
  obtain ⟨hremaining, hpaused, hnone, hsome, hsame⟩ := body_spec h body
  have hfresh : Fresh (happen d body) := fresh_happen h.fresh body
  have hcounted := counted (happen d body) opcode
  have htarget : runsSwiOn d body opcode = false → ∀ pc,
      ((happen d body).tempBpActive && (happen d body).tempBpAddress == pc) = true ↔
        tempTarget d body opcode = some pc := by
    intro hruns pc
    rw [hsame.tempBp.1, hsame.tempBp.2, tempTarget, hruns]
    cases d.tempBpActive <;> simp
  by_cases hone : (happen d body).stepRemaining = 1
  · cases hruns : swiRunsOn (happen d body) opcode with
    | false =>
      have hends : stepEnds d body opcode = true := (stepEnds_iff h body opcode).mpr ⟨hone, hruns⟩
      have hruns' : runsSwiOn d body opcode = false :=
        Bool.eq_false_iff.mpr fun hyes =>
          absurd ((runsSwiOn_iff h body opcode).mp hyes).2 (by simp [hruns])
      obtain ⟨hrequested, hpending, hactive, haddress⟩ := count_ends hfresh hone hruns
      refine ⟨fun _ => ⟨?_, hrequested, hpending⟩, fun hno => absurd hno (by simp [hends]), ?_⟩
      · refine hcounted.paused.trans ?_
        cases hhalted : (fired d body).any haltsAtOnce with
        | false => exact hpaused.trans hhalted
        | true =>
          have hends' : (fired d body).any endsStep = true := by
            obtain ⟨r, hr, hhalts⟩ := List.any_eq_true.mp hhalted
            exact List.any_eq_true.mpr ⟨r, hr, by cases r <;> first | rfl | cases hhalts⟩
          rw [hremaining, hends', if_pos rfl] at hone
          exact absurd hone (by decide)
      · rw [hactive, haddress]
        exact htarget hruns'
    | true =>
      have hruns' : runsSwiOn d body opcode = true := (runsSwiOn_iff h body opcode).mpr ⟨hone, hruns⟩
      have hends : stepEnds d body opcode = false :=
        Bool.eq_false_iff.mpr fun hyes =>
          absurd ((stepEnds_iff h body opcode).mp hyes).2 (by simp [hruns])
      obtain ⟨hrequested, hpending, hactive, haddress⟩ := count_runsOn hfresh hone hruns
      refine ⟨fun hyes => absurd hyes (by simp [hends]), fun _ => ⟨hrequested, hpending⟩, ?_⟩
      intro pc
      rw [hactive, haddress, tempTarget, hruns', if_pos rfl, hsame.lastPc]
      simp
  · have hruns' : runsSwiOn d body opcode = false :=
      Bool.eq_false_iff.mpr fun hyes => absurd ((runsSwiOn_iff h body opcode).mp hyes).1 hone
    have hends : stepEnds d body opcode = false :=
      Bool.eq_false_iff.mpr fun hyes => absurd ((stepEnds_iff h body opcode).mp hyes).1 hone
    obtain ⟨hrequested, hpending, hactive, haddress⟩ := count_goesOn hone opcode
    refine ⟨fun hyes => absurd hyes (by simp [hends]), fun _ => ⟨hrequested, hpending⟩, ?_⟩
    rw [hactive, haddress]
    exact htarget hruns'

/-- **At the next call of the hook** a step that has ended is what was asked, or what has fired is. -/
lemma execute_spec :
    (execute d body opcode tail).paused = (fired d (body ++ tail)).any haltsAtOnce ∧
      (stepEnds d body opcode = true → (fired d tail).any forces = false →
        Stepped (asks (execute d body opcode tail))) ∧
      ((stepEnds d body opcode = true → (fired d tail).any forces = true) → fired d (body ++ tail) ≠ [] →
        Stops (fired d (body ++ tail)) (asks (execute d body opcode tail))) ∧
      (∀ pc, ((execute d body opcode tail).tempBpActive && (execute d body opcode tail).tempBpAddress == pc) =
        true ↔ tempTarget d body opcode = some pc) ∧
      (execute d body opcode tail).breakpoints = d.breakpoints ∧
      (execute d body opcode tail).resumeSkipActive = false := by
  obtain ⟨-, hpaused, hnone, hsome, hsame⟩ := body_spec h body
  obtain ⟨hends, hgoes, htarget⟩ := count_spec h body opcode
  have hcounted := counted (happen d body) opcode
  obtain ⟨hasks, hsame'⟩ := asks_happen (s := d) (hcounted.watchpoints.trans hsame.watchpoints)
    (hcounted.traceConfig.trans hsame.traceConfig) tail
  have hbody : ∀ r ∈ fired d body, isCause r = true := fun r hr => isCause_of_fired hr
  have htail : ∀ r ∈ fired d tail, isCause r = true := fun r hr => isCause_of_fired hr
  have happend : fired d (body ++ tail) = fired d body ++ fired d tail := List.filterMap_append
  rw [happend]
  unfold execute
  refine ⟨?_, ?_, ?_, ?_, ?_, ?_⟩
  · refine (congrArg Asks.paused hasks).trans ((paused_takes htail).trans ?_)
    rw [List.any_append, ← hpaused, ← hcounted.paused]
    rfl
  · intro hyes hwaits
    rw [hasks]
    rcases takes_of_stepped (hends hyes) htail with ⟨hforces, -⟩ | ⟨-, hkept⟩
    · exact absurd hforces (by simp [hwaits])
    · rw [hkept]
      exact hends hyes
  · intro hforces hfired
    rw [hasks]
    cases hyes : stepEnds d body opcode with
    | true =>
      rcases takes_of_stepped (hends hyes) htail with ⟨-, hstops⟩ | ⟨hwaits, -⟩
      · exact hstops.mono (List.subset_append_right _ _)
      · exact absurd (hforces hyes) (by simp [hwaits])
    | false =>
      obtain ⟨hrequested, hpending⟩ := hgoes hyes
      by_cases hbodyNone : fired d body = []
      · obtain ⟨hruns, hidle⟩ := hnone hbodyNone
        rw [hbodyNone, List.nil_append] at hfired ⊢
        exact stops_of_running ⟨hcounted.paused.trans hruns, hrequested.trans hidle⟩ htail hfired
      · have hstops : Stops (fired d body) (asks (countInstruction (happen d body) opcode)) := by
          refine (hsome hbodyNone).imp ?_ ?_
          · rintro ⟨hp, hreason⟩
            exact ⟨hcounted.paused.trans hp, Eq.subst hcounted.pauseReason.symm hreason⟩
          · rintro ⟨hp, hr, hreason⟩
            exact ⟨hcounted.paused.trans hp, hrequested.trans hr, Eq.subst hpending.symm hreason⟩
        refine stops_takes (hstops.mono (List.subset_append_left _ _)) ?_
        exact fun r hr => ⟨htail r hr, List.mem_append_right _ hr⟩
  · intro pc
    rw [hsame'.tempBp.1, hsame'.tempBp.2]
    exact htarget pc
  · rw [hsame'.breakpoints, hcounted.breakpoints, hsame.breakpoints]
  · rw [hsame'.resumeSkipActive, hcounted.resumeSkipActive, hsame.resumeSkipActive, h.resumeSkipActive]

/-- **An explicit stop is reported exactly when the step gives way to it.** -/
lemma stopReported_iff (cpu : Cpu) (pc opcode' : UInt32) :
    StopReported d body opcode tail cpu pc opcode' ↔ GivesWay d body opcode tail cpu pc := by
  obtain ⟨hpaused, hstepped, hstops, htarget, hbps, hskip⟩ := execute_spec h body opcode tail
  have hcauses : fired d (body ++ tail) ⊆ causes d body tail cpu pc := List.subset_append_left _ _
  have hbreakpoint : breakpointHalts (execute d body opcode tail) cpu pc = breakpointHalts d cpu pc :=
    breakpointHalts_congr cpu pc hbps
  have hnostep : PauseReason.step ∉ causes d body tail cpu pc := by
    intro hmem
    rcases List.mem_append.mp hmem with hfired | hhalts
    · cases isCause_of_fired hfired
    · split at hhalts <;> cases hhalts
      contradiction
  constructor
  · intro hreported
    by_contra hnot
    obtain ⟨hsome, hnot⟩ := not_or.mp hnot
    obtain ⟨hnohalt, hnot⟩ := not_or.mp hnot
    obtain ⟨hruns, hnot⟩ := not_or.mp hnot
    have hrunning := hpaused.trans (Bool.eq_false_iff.mpr hruns)
    obtain ⟨hhalts, hreason⟩ := hreported hsome
    have hstep : stopsFor (execute d body opcode tail) cpu pc = some .step := by
      have hbp := hbreakpoint.trans (Bool.eq_false_iff.mpr hnohalt)
      by_cases htemp : ((execute d body opcode tail).tempBpActive &&
          (execute d body opcode tail).tempBpAddress == pc) = true
      · rw [stopsFor, hbp, if_neg Bool.false_ne_true, if_pos htemp]
      · have helsewhere : tempTarget d body opcode ≠ some pc := fun ht => htemp ((htarget pc).mpr ht)
        have hends : stepEnds d body opcode = true ∧ (fired d tail).any forces = false := by
          by_contra hgives
          refine hnot ⟨helsewhere, fun hends => ?_⟩
          by_contra hwaits
          exact hgives ⟨hends, Bool.eq_false_iff.mpr hwaits⟩
        obtain ⟨-, hrequested, hpending⟩ := hstepped hends.1 hends.2
        exact stopsFor_asked cpu pc hbp htemp hrequested hpending nofun
    rw [((hook_spec cpu pc opcode' hrunning hskip).2 .step hstep).2 hhalts] at hreason
    exact hnostep hreason
  · intro hgives hsome
    cases hhalted : (fired d (body ++ tail)).any haltsAtOnce with
    | true =>
      have hpaused := hpaused.trans hhalted
      have hstays : instructionHook (execute d body opcode tail) cpu pc opcode' =
          (true, { execute d body opcode tail with lastPc := pc, lastOpcode := opcode' }) := if_pos hpaused
      have hfired : fired d (body ++ tail) ≠ [] := by
        intro hnone
        rw [hnone] at hhalted
        cases hhalted
      have hforces : stepEnds d body opcode = true → (fired d tail).any forces = true := by
        intro hends
        by_contra hwaits
        have hruns := (hstepped hends (Bool.eq_false_iff.mpr hwaits)).1
        exact absurd (hruns.symm.trans hpaused) Bool.false_ne_true
      rw [hstays]
      refine ⟨rfl, ?_⟩
      rcases hstops hforces hfired with ⟨-, hreason⟩ | ⟨hruns, -⟩
      · exact hcauses hreason
      · exact absurd (hruns.symm.trans hpaused) Bool.false_ne_true
    | false =>
      have hrunning := hpaused.trans hhalted
      have hreport : ∀ reason, stopsFor (execute d body opcode tail) cpu pc = some reason →
          reason ∈ causes d body tail cpu pc →
          (instructionHook (execute d body opcode tail) cpu pc opcode').1 = true ∧
            (instructionHook (execute d body opcode tail) cpu pc opcode').2.pauseReason ∈
              causes d body tail cpu pc := by
        intro reason hfor hmem
        obtain ⟨hhalts, hreason⟩ := (hook_spec cpu pc opcode' hrunning hskip).2 reason hfor
        have hne : reason ≠ .step := fun hs => hnostep (hs ▸ hmem)
        rw [hreason (hhalts hne)]
        exact ⟨hhalts hne, hmem⟩
      cases hbp : breakpointHalts d cpu pc with
      | true =>
        refine hreport .breakpoint ?_ ?_
        · rw [stopsFor, hbreakpoint, hbp]
          rfl
        · rw [causes, hbp]
          exact List.mem_append_right _ List.mem_cons_self
      | false =>
        rcases hgives with hnone | hyes | hyes | ⟨helsewhere, hforces⟩
        · exact absurd hnone hsome
        · exact absurd hyes (by simp [hbp])
        · exact absurd hyes (by simp [hhalted])
        · have hfired : fired d (body ++ tail) ≠ [] := by
            intro hnone
            rw [causes, hnone, hbp] at hsome
            exact hsome rfl
          rcases hstops hforces hfired with ⟨hpaused, -⟩ | ⟨-, hrequested, hmem⟩
          · exact absurd (hrunning.symm.trans hpaused) Bool.false_ne_true
          · refine hreport _ ?_ (hcauses hmem)
            have hcause := isCause_of_fired hmem
            refine stopsFor_asked cpu pc (hbreakpoint.trans hbp) (fun ht => helsewhere ((htarget pc).mp ht))
              hrequested rfl ?_
            intro hnone
            rw [show (asks (execute d body opcode tail)).pendingReason = .none from hnone] at hcause
            cases hcause

end Instruction

/-- **An explicit stop is reported**, in every state the debugger reaches and whatever happens during the
instruction, exactly when the step gives way to it. -/
theorem explicit_stop_reported (ops : List Op) (cpu : Cpu) (pc opcode : UInt32)
    (hruns : (instructionHook (Runs.exec apply {} ops) cpu pc opcode).1 = false) (body tail : List Event)
    (cpu' : Cpu) (pc' opcode' : UInt32) :
    StopReported (instructionHook (Runs.exec apply {} ops) cpu pc opcode).2 body opcode tail cpu' pc' opcode' ↔
      GivesWay (instructionHook (Runs.exec apply {} ops) cpu pc opcode).2 body opcode tail cpu' pc' := by
  obtain ⟨hpaused, hrequested, hskip⟩ := hook_goesOn cpu pc opcode hruns
  have hfresh : Fresh (Runs.exec apply {} ops) :=
    Runs.exec_inv (I := Fresh) (C := fun _ _ => True) (fun d op h _ => h.apply op) ops ({} : State) rfl
      fun _ _ => trivial
  exact stopReported_iff ⟨hpaused, hrequested, hskip, hfresh.instructionHook cpu pc opcode⟩ body opcode tail
    cpu' pc' opcode'

/-! ## A SWI that is trapped and stepped -/

def quietCpu : Cpu where
  env := ⟨fun _ => 0, 0, fun _ _ => none⟩
  mode := 0x10
  pc := 0
  r15Mask := 0xfffffffc
  faultAddress := 0
  faultStatus := 0
  debugEnabled := true

def steppedSwi (instructionCount : UInt32) : List Op :=
  [.setTraceConfig (some { swiTraceHalt := true, stepSkipOs := true, swiFilterMax := 0xffffffff }),
    .requestPause .user, .instructionHook quietCpu 0x8000 0xef000002, .singleStep instructionCount]

theorem explicit_stop_reported_swi :
    StopReported (instructionHook (Runs.exec apply {} (steppedSwi 2)) quietCpu 0x8000 0xef000002).2
      [.swi quietCpu 2 0xef000002] 0xef000002 [] quietCpu 8 0xea000000 := by
  rw [explicit_stop_reported _ _ _ _ (by decide)]
  exact .inr (.inr (.inr ⟨by decide, by decide⟩))

theorem explicit_stop_lost :
    ¬StopReported (instructionHook (Runs.exec apply {} (steppedSwi 1)) quietCpu 0x8000 0xef000002).2
      [.swi quietCpu 2 0xef000002] 0xef000002 [] quietCpu 8 0xea000000 := by
  intro h
  have hsome : causes (instructionHook (Runs.exec apply {} (steppedSwi 1)) quietCpu 0x8000 0xef000002).2
      [.swi quietCpu 2 0xef000002] [] quietCpu 8 ≠ [] := by decide
  exact absurd (h hsome).1 (by decide)

end RpcEmu.Debugger
