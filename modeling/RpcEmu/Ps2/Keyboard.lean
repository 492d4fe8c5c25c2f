import RpcEmu.Ps2.Port
import RpcEmu.Lib.Runs

/-!
# The keyboard

Scancodes wait in the queue, and one at a time is put into the data register when the count in `kcallback` runs
out.  The guest's read of it sets the count again, as long as `command` is `0xfe`, which stands for the scancodes
being sent.  The answers to the guest's commands go the same way, and `command` is what is to be answered too.
-/

namespace RpcEmu.Ps2

open CountedRing

def kbdCmdEnable : UInt8 := 0xf4
def kbdCmdReset : UInt8 := 0xff
def kbdReplyPor : UInt8 := 0xaa
def kbdReplyAck : UInt8 := 0xfa

/-- `kbd`, with `kcallback` and the two interrupt lines. -/
structure Kbd where
  enable : Bool
  reset : Nat
  stat : UInt8
  data : UInt8
  command : UInt8
  queue : PS2Queue
  kcallback : Nat
  irqRx : Bool
  irqTx : Bool

/-! ## The operations -/

/-- `keyboard_reset`. -/
def keyboardReset : Kbd where
  enable := false
  reset := 0
  stat := 0
  data := 0
  command := 0
  queue := ⟨fun _ => 0, 0, 0, 0⟩
  kcallback := 0
  irqRx := false
  irqTx := false

section Operations

variable (s : Kbd)

/-- `keyboard_data_write`. -/
def keyboardDataWrite (v : UInt8) : Kbd :=
  if v = kbdCmdReset then { s with reset := 2, kcallback := 4 * 4 }
  else if v = kbdCmdEnable then { s with reset := 0, command := kbdCmdEnable, kcallback := 1 * 4 }
  else { s with command := 1, reset := 0, kcallback := 1 * 4 }

/-- `keyboard_control_write`. -/
def keyboardControlWrite (v : UInt8) : Kbd :=
  let s : Kbd := if v ≠ 0 ∧ s.enable = false then { s with reset := 1, kcallback := 5 * 4 } else s
  { s with stat := if v ≠ 0 then s.stat ||| ps2ControlEnable else s.stat &&& ~~~ps2ControlEnable }

/-- `keyboardsend`. -/
def keyboardsend (v : UInt8) : Kbd := { s with data := v, stat := sentStat s.stat v, irqRx := true }

def sendQueued : Kbd :=
  let s : Kbd := { keyboardsend s (ps2ReadData s.queue).1 with queue := (ps2ReadData s.queue).2, kcallback := 0 }
  if s.queue.count = 0 then { s with command := 0 } else s

/-- `keyboard_callback_rpcemu`. -/
def keyboardCallback : Kbd :=
  if s.reset = 1 then { s with reset := 0, stat := s.stat ||| ps2ControlTxEmpty, irqTx := true }
  else if s.reset = 2 then { s with reset := 3, kcallback := 500 * 4 }
  else if s.reset = 3 then keyboardsend { s with kcallback := 0, reset := 0 } kbdReplyPor
  else if s.command = 1 ∨ s.command = kbdCmdEnable then
    { keyboardsend s kbdReplyAck with kcallback := 0, command := 0 }
  else if s.command = 0xfe then sendQueued s
  else s

/-- `keyboard_data_read`. -/
def keyboardDataRead : UInt8 × Kbd :=
  let s : Kbd := { s with irqRx := false, stat := readStat s.stat }
  (s.data, if s.command = 0xfe then { s with kcallback := 5 * 4 } else s)

/-- What `keyboard_key_press` queues. -/
def pressCodes (scanCodes : List UInt8) : List UInt8 :=
  let code (i : Nat) := scanCodes.getD i 0
  if code 0 = 0xe0 then [code 0, code 1]
  else if code 0 = 0xe1 then [code 0, code 1, code 2, code 3, code 4, code 5, code 6, code 7]
  else [code 0]

/-- What `keyboard_key_release` queues. -/
def releaseCodes (scanCodes : List UInt8) : List UInt8 :=
  let code (i : Nat) := scanCodes.getD i 0
  if code 1 = 0 then [0xf0, code 0] else [code 0, 0xf0, code 1]

def queueCodes (codes : List UInt8) : Kbd :=
  { s with queue := ps2QueueAll s.queue codes, kcallback := 20, command := 0xfe }

/-- `keyboard_key_press`. -/
def keyboardKeyPress : Option (List UInt8) → Kbd
  | none => s
  | some scanCodes => queueCodes s (pressCodes scanCodes)

/-- `keyboard_key_release`. -/
def keyboardKeyRelease : Option (List UInt8) → Kbd
  | none => s
  | some scanCodes => queueCodes s (releaseCodes scanCodes)

/-- The main loop counts `kcallback` down. -/
def countDown : Kbd :=
  if s.kcallback = 0 then s
  else if s.kcallback - 1 = 0 then keyboardCallback { s with kcallback := 0 } else { s with kcallback := s.kcallback - 1 }

end Operations

/-! ## Events in any order -/

inductive KbdEvent where
  | press (scanCodes : Option (List UInt8))
  | release (scanCodes : Option (List UInt8))
  | dataWrite (v : UInt8)
  | controlWrite (v : UInt8)
  | dataRead
  | count
  deriving DecidableEq, Repr

def kbdStep (s : Kbd) : KbdEvent → Kbd
  | .press scanCodes => keyboardKeyPress s scanCodes
  | .release scanCodes => keyboardKeyRelease s scanCodes
  | .dataWrite v => keyboardDataWrite s v
  | .controlWrite v => keyboardControlWrite s v
  | .dataRead => (keyboardDataRead s).2
  | .count => countDown s

def Kbd.delivers (s : Kbd) : Bool := isFull s.stat && s.command == 0xfe

/-- **Nothing is stranded**: what is queued is on its way. -/
def Waits (s : Kbd) : Prop := s.queue.count ≠ 0 → 0 < s.kcallback ∨ s.delivers = true

instance decidableWaits (s : Kbd) : Decidable (Waits s) :=
  inferInstanceAs (Decidable (s.queue.count ≠ 0 → 0 < s.kcallback ∨ s.delivers = true))

/-- The count runs out and leaves the queue as it is. -/
def Strands (s : Kbd) (e : KbdEvent) : Prop :=
  e = .count ∧ s.kcallback = 1 ∧ s.queue.count ≠ 0 ∧
    (s.reset = 1 ∧ s.delivers = false ∨ s.reset ≠ 1 ∧ s.reset ≠ 2 ∧ s.command ≠ 0xfe)

section Waits

variable {s : Kbd}

lemma countDown_of_one (h : s.kcallback = 1) : countDown s = keyboardCallback { s with kcallback := 0 } := by
  unfold countDown
  rw [if_neg (by omega), if_pos (by omega)]

lemma countDown_of_ne_one (h : s.kcallback ≠ 1) : countDown s = { s with kcallback := s.kcallback - 1 } := by
  unfold countDown
  by_cases hzero : s.kcallback = 0
  · rw [if_pos hzero, hzero]
    obtain ⟨⟩ := s
    simp_all
  · rw [if_neg hzero, if_neg (by omega)]

lemma waits_sendQueued (hcommand : s.command = 0xfe) : Waits (sendQueued s) := by
  intro hcount
  right
  unfold sendQueued at hcount ⊢
  dsimp only at hcount ⊢
  split_ifs at hcount ⊢ with hnone
  · exact absurd hnone hcount
  · simp [Kbd.delivers, keyboardsend, hcommand]

/-- **What a callback leaves**: the queue waits, unless it is for something else. -/
lemma waits_callback (h : s.kcallback = 0) :
    Waits (keyboardCallback s) ↔ ¬(s.queue.count ≠ 0 ∧
      (s.reset = 1 ∧ s.delivers = false ∨ s.reset ≠ 1 ∧ s.reset ≠ 2 ∧ s.command ≠ 0xfe)) := by
  unfold keyboardCallback
  split_ifs with hone htwo hthree hanswer hqueue
  · simp [Waits, Kbd.delivers, h, hone]
  · simp [Waits, htwo]
  · simp [Waits, Kbd.delivers, keyboardsend, hthree]
  · have hne : s.command ≠ 0xfe := by
      rcases hanswer with hc | hc <;> rw [hc] <;> decide
    simp [Waits, Kbd.delivers, keyboardsend, hone, htwo, hne]
  · have hwaits := waits_sendQueued hqueue
    simp [hwaits, hone, hqueue]
  · simp [Waits, Kbd.delivers, h, hone, htwo, hqueue]

/-- **One event**, from a state in which nothing is stranded. -/
lemma waits_step (hs : Waits s) (e : KbdEvent) : ¬Strands s e ↔ Waits (kbdStep s e) := by
  cases e with
  | count =>
    by_cases hone : s.kcallback = 1
    · rw [kbdStep, countDown_of_one hone, waits_callback rfl]
      simp [Strands, hone, Kbd.delivers]
    · refine iff_of_true (fun h => hone h.2.1) fun hcount => ?_
      rw [kbdStep, countDown_of_ne_one hone] at hcount ⊢
      refine (hs hcount).imp_left fun hrunning => ?_
      change 0 < s.kcallback - 1
      omega
  | press scanCodes =>
    refine iff_of_true (fun h => nomatch h.1) ?_
    cases scanCodes with
    | none => exact hs
    | some codes => exact fun _ => Or.inl (Nat.zero_lt_succ 19)
  | release scanCodes =>
    refine iff_of_true (fun h => nomatch h.1) ?_
    cases scanCodes with
    | none => exact hs
    | some codes => exact fun _ => Or.inl (Nat.zero_lt_succ 19)
  | dataWrite v =>
    refine iff_of_true (fun h => nomatch h.1) fun _ => Or.inl ?_
    rw [kbdStep, keyboardDataWrite]
    split_ifs <;> exact Nat.zero_lt_succ _
  | controlWrite v =>
    refine iff_of_true (fun h => nomatch h.1) ?_
    rw [kbdStep, keyboardControlWrite]
    by_cases hon : v ≠ 0 ∧ s.enable = false
    · rw [if_pos hon]
      exact fun _ => Or.inl (Nat.zero_lt_succ 19)
    · rw [if_neg hon]
      intro hcount
      have hold := hs hcount
      by_cases hv : v ≠ 0
      · simpa [Kbd.delivers, hv] using hold
      · simpa [Kbd.delivers, hv] using hold
  | dataRead =>
    refine iff_of_true (fun h => nomatch h.1) fun hcount => Or.inl ?_
    rw [kbdStep, keyboardDataRead] at hcount ⊢
    dsimp only at hcount ⊢
    split_ifs at hcount ⊢ with hqueue
    · exact Nat.zero_lt_succ 19
    · -- it was not a byte of the queue, so the count is running
      refine (hs hcount).resolve_right fun hdelivers => ?_
      simp [Kbd.delivers, hqueue] at hdelivers

end Waits

/-- **A queued key is never stranded** in a run from a reset, exactly if no count runs out for something else than the
queue while there is something in it. -/
theorem never_stranded_iff (es : List KbdEvent) :
    Runs.Along kbdStep (fun s e => ¬Strands s e) keyboardReset es ↔
      Runs.Along kbdStep (fun s e => Waits (kbdStep s e)) keyboardReset es :=
  Runs.along_iff_of_inv (I := Waits) (fun _ e hs hstep => (waits_step hs e).mp hstep) (fun _ e hs => waits_step hs e) es
    keyboardReset fun hcount => absurd rfl hcount

def commandInScancode : List KbdEvent :=
  .press (some [0xe0, 0x75]) :: List.replicate 20 .count ++ [.dataWrite 0xed] ++ List.replicate 4 .count

theorem not_never_stranded :
    ¬Runs.Along kbdStep (fun s e => Waits (kbdStep s e)) keyboardReset commandInScancode := by
  decide +kernel

end RpcEmu.Ps2
