import RpcEmu.Ps2.Keyboard

/-!
# Keystrokes on their way to the guest

What the guest gets of the keyboard is watched beside it: the scancodes that the queue has room for, the bytes of
them that have been read, and whether the byte in the data register is one of them.

**`late`**: a key, or a command, has come while a byte was unread.  It has set the count, which otherwise does not
run while the guest has something to read.
-/

namespace RpcEmu.Ps2

open CountedRing

/-! ## What is watched -/

def sending (s : Kbd) : Option Bool :=
  if s.reset = 1 ∨ s.reset = 2 then none
  else if s.reset = 3 ∨ s.command = 1 ∨ s.command = kbdCmdEnable then some false
  else if s.command = 0xfe then some true
  else none

def codesOf : KbdEvent → Option (List UInt8)
  | .press (some scanCodes) => some (pressCodes scanCodes)
  | .release (some scanCodes) => some (releaseCodes scanCodes)
  | _ => none

def fits (s : Kbd) (codes : List UInt8) : Bool := s.queue.count + codes.length ≤ ps2QueueSize

/-- The keyboard, the scancodes accepted, the bytes of them that have been read, whether the one in the data register
is one of them, and whether a key or a command has come since it was sent. -/
structure Typing where
  kbd : Kbd
  accepted : List (List UInt8)
  got : List UInt8
  scan : Bool
  late : Bool

def sendingNow (s : Kbd) : KbdEvent → Option Bool
  | .count => if s.kcallback = 1 then sending s else none
  | _ => none

def hurries : KbdEvent → Bool
  | .dataWrite _ => true
  | e => (codesOf e).isSome

def typingStep (w : Typing) (e : KbdEvent) : Typing where
  kbd := kbdStep w.kbd e
  accepted := w.accepted ++ ((codesOf e).filter (fits w.kbd)).toList
  got := if e = .dataRead ∧ w.scan = true then w.got ++ [(keyboardDataRead w.kbd).1] else w.got
  scan := (sendingNow w.kbd e).getD w.scan
  late := e != .dataRead && (w.late || (hurries e && isFull w.kbd.stat))

def pending (w : Typing) : List UInt8 := if w.scan && isFull w.kbd.stat then [w.kbd.data] else []

/-- **Every byte is there once, in order.** -/
def Delivered (w : Typing) : Prop := w.got ++ pending w ++ queued w.kbd.queue = w.accepted.flatten

/-- A byte is sent over one not yet read. -/
def Replaces (w : Typing) (e : KbdEvent) : Prop := (sendingNow w.kbd e).isSome = true ∧ isFull w.kbd.stat = true

instance decidableDelivered (w : Typing) : Decidable (Delivered w) := inferInstanceAs (Decidable (_ = _))

instance decidableReplaces (w : Typing) (e : KbdEvent) : Decidable (Replaces w e) := inferInstanceAs (Decidable (_ ∧ _))

/-- **The guest is in time**: when something is sent, nothing has come while the byte before was unread; the same byte
is not read again; and the queue has room for a scancode as a whole, or for nothing. -/
structure Timely (w : Typing) (e : KbdEvent) : Prop where
  sent : (sendingNow w.kbd e).isSome = true → w.late = false
  read : e = .dataRead → w.scan = true → isFull w.kbd.stat = true
  room : ∀ codes, codesOf e = some codes → fits w.kbd codes = true ∨ w.kbd.queue.count = ps2QueueSize

/-- What has been delivered is what was typed, and a full port is quiet. -/
structure Typed (w : Typing) : Prop where
  good : Good ps2QueueSize w.kbd.queue
  delivered : Delivered w
  quiet : isFull w.kbd.stat = true → w.late = false → w.kbd.kcallback = 0 ∨ w.kbd.reset = 1
  late : w.late = true → isFull w.kbd.stat = true
  waiting : w.kbd.command = 0xfe → 0 < w.kbd.queue.count

/-! ## One event -/

section Step

variable {w : Typing} {e : KbdEvent} {s : Kbd}

lemma callback_none (h : sending s = none) :
    (keyboardCallback s).queue = s.queue ∧ (keyboardCallback s).data = s.data ∧
      isFull (keyboardCallback s).stat = isFull s.stat ∧ (keyboardCallback s).command = s.command := by
  unfold sending at h
  unfold keyboardCallback
  by_cases hone : s.reset = 1
  · simp [hone]
  · by_cases htwo : s.reset = 2
    · simp [htwo]
    · rw [if_neg (by simp [hone, htwo])] at h
      split_ifs at h with hanswer hqueue
      have hthree : ¬s.reset = 3 := fun hc => hanswer (Or.inl hc)
      have hcommand : ¬(s.command = 1 ∨ s.command = kbdCmdEnable) := fun hc => hanswer (Or.inr hc)
      simp [hone, htwo, hthree, hcommand, hqueue]

lemma callback_answer (h : sending s = some false) :
    (keyboardCallback s).queue = s.queue ∧ isFull (keyboardCallback s).stat = true ∧
      (keyboardCallback s).kcallback = 0 ∧ ((keyboardCallback s).command = 0xfe → s.command = 0xfe) := by
  unfold sending at h
  split_ifs at h with hreset hanswer
  · unfold keyboardCallback
    rw [not_or] at hreset
    rw [if_neg hreset.1, if_neg hreset.2]
    by_cases hthree : s.reset = 3
    · simp [hthree, keyboardsend]
    · rw [if_neg hthree, if_pos (hanswer.resolve_left hthree)]
      simp [keyboardsend]
  · simp at h

lemma callback_queue (h : sending s = some true) : keyboardCallback s = sendQueued s ∧ s.command = 0xfe := by
  unfold sending at h
  split_ifs at h with hreset hanswer hqueue
  · simp at h
  · rw [not_or] at hreset hanswer
    unfold keyboardCallback
    exact ⟨by rw [if_neg hreset.1, if_neg hreset.2, if_neg hanswer.1, if_neg hanswer.2, if_pos hqueue], hqueue⟩

lemma sendQueued_lines (s : Kbd) :
    (sendQueued s).queue = (ps2ReadData s.queue).2 ∧ (sendQueued s).data = (ps2ReadData s.queue).1 ∧
      isFull (sendQueued s).stat = true ∧ (sendQueued s).kcallback = 0 ∧
        ((sendQueued s).command = 0xfe → 0 < (sendQueued s).queue.count) := by
  unfold sendQueued
  dsimp only
  split_ifs with hnone
  · simp [keyboardsend]
  · simp only [keyboardsend, isFull_sentStat, true_and]
    omega

lemma delivered_congr {w : Typing} (w' : Typing) (haccepted : w'.accepted = w.accepted) (hgot : w'.got = w.got)
    (hscan : w'.scan = w.scan) (hqueue : w'.kbd.queue = w.kbd.queue) (hdata : w'.kbd.data = w.kbd.data)
    (hfull : isFull w'.kbd.stat = isFull w.kbd.stat) : Delivered w' ↔ Delivered w := by
  unfold Delivered pending
  rw [haccepted, hgot, hscan, hqueue, hdata, hfull]

lemma codes_ne_nil {codes : List UInt8} (h : codesOf e = some codes) : 0 < codes.length := by
  unfold codesOf at h
  split at h
  · rw [← Option.some.inj h, pressCodes]
    dsimp only
    split_ifs <;> simp
  · rw [← Option.some.inj h, releaseCodes]
    dsimp only
    split_ifs <;> simp
  · simp at h

lemma sendingNow_of_ne (he : e ≠ .count) : sendingNow s e = none := by
  cases e with
  | count => exact absurd rfl he
  | _ => rfl

lemma got_of_ne (he : e ≠ .dataRead) : (typingStep w e).got = w.got := if_neg fun h => he h.1

/-! ## A key -/

lemma kbdStep_codes {codes : List UInt8} (h : codesOf e = some codes) : kbdStep s e = queueCodes s codes := by
  unfold codesOf at h
  split at h
  · rw [← Option.some.inj h]
    rfl
  · rw [← Option.some.inj h]
    rfl
  · simp at h

lemma ne_of_codes {codes : List UInt8} (h : codesOf e = some codes) : e ≠ .count ∧ e ≠ .dataRead := by
  constructor <;> rintro rfl <;> simp [codesOf] at h

/-- **A key**: its codes are queued as a whole, or not at all, if the room is as it should be. -/
lemma delivered_key (h : Typed w) {codes : List UInt8} (hcodes : codesOf e = some codes) :
    fits w.kbd codes = true ∨ w.kbd.queue.count = ps2QueueSize ↔ Delivered (typingStep w e) := by
  obtain ⟨hcount, hread⟩ := ne_of_codes hcodes
  have hlength := codes_ne_nil hcodes
  have hkbd := kbdStep_codes (s := w.kbd) hcodes
  have hgot := got_of_ne (w := w) hread
  have hscan : (typingStep w e).scan = w.scan := by
    change (sendingNow w.kbd e).getD w.scan = w.scan
    rw [sendingNow_of_ne hcount]
    rfl
  have hpending : pending (typingStep w e) = pending w := by
    unfold pending
    rw [hscan]
    change (if w.scan && isFull (kbdStep w.kbd e).stat then [(kbdStep w.kbd e).data] else []) = _
    rw [hkbd]
    rfl
  have hqueue : (typingStep w e).kbd.queue = ps2QueueAll w.kbd.queue codes := by
    change (kbdStep w.kbd e).queue = _
    rw [hkbd]
    rfl
  have haccepted : (typingStep w e).accepted = w.accepted ++ (Option.filter (fits w.kbd) (some codes)).toList := by
    change w.accepted ++ ((codesOf e).filter (fits w.kbd)).toList = _
    rw [hcodes]
  have hold := h.delivered
  unfold Delivered at hold ⊢
  rw [hgot, hpending, hqueue, haccepted]
  by_cases hfits : fits w.kbd codes = true
  · refine iff_of_true (Or.inl hfits) ?_
    have hroom := of_decide_eq_true hfits
    rw [queued_ps2QueueAll h.good codes, List.take_of_length_le (by omega), ← List.append_assoc, hold]
    simp [Option.filter, hfits]
  · have hnone : (Option.filter (fits w.kbd) (some codes)).toList = [] := by simp [Option.filter, hfits]
    rw [hnone, List.append_nil]
    refine ⟨fun hor => ?_, fun hnew => Or.inr ?_⟩
    · have hnoRoom : ps2QueueSize - w.kbd.queue.count = 0 := by rw [hor.resolve_left hfits, Nat.sub_self]
      rw [queued_ps2QueueAll h.good codes, hnoRoom, List.take_zero, List.append_nil, hold]
    · -- part of the codes would be queued, and no more than the count tells them apart
      have hroom : ¬w.kbd.queue.count + codes.length ≤ ps2QueueSize := fun hle => hfits (decide_eq_true hle)
      have hlengths := congrArg List.length (hnew.trans hold.symm)
      have hafter := count_ps2QueueAll h.good codes
      simp only [List.length_append, length_contents] at hlengths
      omega

lemma typed_key (h : Typed w) {codes : List UInt8} (hcodes : codesOf e = some codes)
    (hdelivered : Delivered (typingStep w e)) : Typed (typingStep w e) := by
  obtain ⟨hcount, hread⟩ := ne_of_codes hcodes
  have hlength := codes_ne_nil hcodes
  have hkbd : (typingStep w e).kbd = queueCodes w.kbd codes := kbdStep_codes hcodes
  have hlate : (typingStep w e).late = (w.late || isFull w.kbd.stat) := by
    have hhurries : hurries e = true := by
      cases e with
      | dataWrite v => simp [codesOf] at hcodes
      | _ => simp [hurries, hcodes]
    simp [typingStep, hread, hhurries]
  refine ⟨?_, hdelivered, fun hfull hnot => ?_, fun hl => ?_, fun _ => ?_⟩
  · rw [hkbd]
    exact good_ps2QueueAll h.good codes
  · rw [hkbd] at hfull
    have hfull' : isFull w.kbd.stat = true := hfull
    simp [hlate, hfull'] at hnot
  · rw [hkbd]
    change isFull w.kbd.stat = true
    rw [hlate, Bool.or_eq_true] at hl
    exact hl.elim h.late id
  · rw [hkbd]
    have hafter := count_ps2QueueAll h.good codes
    change 0 < (ps2QueueAll w.kbd.queue codes).count
    rw [hafter]
    have hsize : 0 < ps2QueueSize := by decide
    omega

/-! ## A read -/

lemma dataRead_lines (s : Kbd) :
    (keyboardDataRead s).1 = s.data ∧ (keyboardDataRead s).2.queue = s.queue ∧
      isFull (keyboardDataRead s).2.stat = false ∧ (keyboardDataRead s).2.command = s.command := by
  unfold keyboardDataRead
  dsimp only
  split_ifs <;> simp

/-- **A read** gets the byte that is to be read, if it is not read a second time. -/
lemma delivered_read (h : Typed w) :
    (w.scan = true → isFull w.kbd.stat = true) ↔ Delivered (typingStep w .dataRead) := by
  obtain ⟨hbyte, hqueue, hempty, -⟩ := dataRead_lines w.kbd
  have hold := h.delivered
  have hpending : pending (typingStep w .dataRead) = [] := by
    unfold pending
    change (if _ && isFull (keyboardDataRead w.kbd).2.stat then _ else _) = _
    rw [hempty, Bool.and_false]
    rfl
  have haccepted : (typingStep w .dataRead).accepted = w.accepted := List.append_nil _
  have hnew : (typingStep w .dataRead).kbd.queue = w.kbd.queue := hqueue
  unfold Delivered at hold ⊢
  rw [hpending, haccepted, hnew, List.append_nil, ← hold]
  cases hscan : w.scan with
  | false => simp [typingStep, pending, hscan]
  | true =>
    have hgot : (typingStep w .dataRead).got = w.got ++ [w.kbd.data] := by
      rw [← hbyte]
      exact if_pos ⟨rfl, hscan⟩
    rw [hgot]
    cases hfull : isFull w.kbd.stat with
    | true => simp [pending, hscan, hfull]
    | false => simp [pending, hscan, hfull]

lemma typed_read (h : Typed w) (hdelivered : Delivered (typingStep w .dataRead)) : Typed (typingStep w .dataRead) := by
  obtain ⟨-, hqueue, hempty, hcommand⟩ := dataRead_lines w.kbd
  refine ⟨?_, hdelivered, fun hfull => ?_, fun hlate => ?_, fun hc => ?_⟩
  · change Good ps2QueueSize (keyboardDataRead w.kbd).2.queue
    rw [hqueue]
    exact h.good
  · change isFull (keyboardDataRead w.kbd).2.stat = true at hfull
    rw [hempty] at hfull
    exact absurd hfull Bool.false_ne_true
  · exact absurd hlate Bool.false_ne_true
  · change (keyboardDataRead w.kbd).2.command = 0xfe at hc
    change 0 < (keyboardDataRead w.kbd).2.queue.count
    rw [hcommand] at hc
    rw [hqueue]
    exact h.waiting hc

/-! ## The count -/

lemma count_none (h : sendingNow s .count = none) :
    (countDown s).queue = s.queue ∧ (countDown s).data = s.data ∧
      isFull (countDown s).stat = isFull s.stat ∧ (countDown s).command = s.command := by
  by_cases hone : s.kcallback = 1
  · have hsending : sending { s with kcallback := 0 } = none := (if_pos hone).symm.trans h
    rw [countDown_of_one hone]
    exact callback_none hsending
  · rw [countDown_of_ne_one hone]
    exact ⟨rfl, rfl, rfl, rfl⟩

lemma typed_quiet (h : Typed w) (hnone : sendingNow w.kbd .count = none) :
    Delivered (typingStep w .count) ∧ Typed (typingStep w .count) := by
  obtain ⟨hqueue, hdata, hfull, hcommand⟩ := count_none hnone
  have hscan : (typingStep w .count).scan = w.scan := by
    change (sendingNow w.kbd .count).getD w.scan = w.scan
    rw [hnone]
    rfl
  have hdelivered := (delivered_congr (w := w) (typingStep w .count) (List.append_nil _) (got_of_ne nofun)
    hscan hqueue hdata hfull).mpr h.delivered
  have hlate : (typingStep w .count).late = w.late := by simp [typingStep, hurries, codesOf]
  refine ⟨hdelivered, ?_, hdelivered, fun hf hl => ?_, fun hl => ?_, fun hc => ?_⟩
  · change Good ps2QueueSize (countDown w.kbd).queue
    rw [hqueue]
    exact h.good
  · change (countDown w.kbd).kcallback = 0 ∨ (countDown w.kbd).reset = 1
    change isFull (countDown w.kbd).stat = true at hf
    rw [hfull] at hf
    rw [hlate] at hl
    by_cases hone : w.kbd.kcallback = 1
    · -- only the enabling of the port can be what the count was for
      have hreset : w.kbd.reset = 1 := (h.quiet hf hl).resolve_left (by omega)
      left
      rw [countDown_of_one hone, keyboardCallback, if_pos hreset]
    · rw [countDown_of_ne_one hone]
      refine (h.quiet hf hl).imp_left fun hzero => ?_
      change w.kbd.kcallback - 1 = 0
      omega
  · change isFull (countDown w.kbd).stat = true
    rw [hfull]
    exact h.late (hlate ▸ hl)
  · change (countDown w.kbd).command = 0xfe at hc
    change 0 < (countDown w.kbd).queue.count
    rw [hcommand] at hc
    rw [hqueue]
    exact h.waiting hc

/-- **Something is sent**, to a guest that has nothing to read. -/
lemma typed_sent (h : Typed w) {fromQueue : Bool} (hsends : sendingNow w.kbd .count = some fromQueue)
    (hlate : w.late = false) :
    isFull w.kbd.stat = false ∧ Delivered (typingStep w .count) ∧ Typed (typingStep w .count) := by
  have hone : w.kbd.kcallback = 1 := by
    by_contra hne
    rw [sendingNow, if_neg hne] at hsends
    simp at hsends
  have hsending : sending { w.kbd with kcallback := 0 } = some fromQueue := (if_pos hone).symm.trans hsends
  have hempty : isFull w.kbd.stat = false := by
    cases hfull : isFull w.kbd.stat with
    | false => rfl
    | true =>
      have hreset : w.kbd.reset = 1 := (h.quiet hfull hlate).resolve_left (by omega)
      simp [sending, hreset] at hsending
  have hkbd : (typingStep w .count).kbd = keyboardCallback { w.kbd with kcallback := 0 } := countDown_of_one hone
  have hscan : (typingStep w .count).scan = fromQueue := by
    change (sendingNow w.kbd .count).getD w.scan = fromQueue
    rw [hsends]
    rfl
  have hgot : (typingStep w .count).got = w.got := got_of_ne nofun
  have haccepted : (typingStep w .count).accepted = w.accepted := List.append_nil _
  have hlate' : (typingStep w .count).late = false := by simp [typingStep, hurries, codesOf, hlate]
  have hold := h.delivered
  have hpending : pending w = [] := by simp [pending, hempty]
  unfold Delivered at hold
  rw [hpending, List.append_nil] at hold
  refine ⟨hempty, ?_⟩
  cases fromQueue with
  | false =>
    obtain ⟨hqueue, -, hzero, hcommand⟩ := callback_answer hsending
    have hdelivered : Delivered (typingStep w .count) := by
      unfold Delivered pending
      rw [hgot, haccepted, hscan, hkbd, hqueue, ← hold]
      simp
    refine ⟨hdelivered, ?_, hdelivered, fun _ _ => ?_, fun hl => ?_, fun hc => ?_⟩
    · rw [hkbd, hqueue]
      exact h.good
    · rw [hkbd]
      exact Or.inl hzero
    · rw [hlate'] at hl
      exact absurd hl Bool.false_ne_true
    · rw [hkbd] at hc ⊢
      rw [hqueue]
      exact h.waiting (hcommand hc)
  | true =>
    obtain ⟨hsent, hcommand⟩ := callback_queue hsending
    obtain ⟨hqueue, hdata, hfull, hzero, hwaiting⟩ := sendQueued_lines { w.kbd with kcallback := 0 }
    obtain ⟨hfirst, hgood⟩ := queued_ps2ReadData h.good (h.waiting hcommand)
    have hdelivered : Delivered (typingStep w .count) := by
      unfold Delivered pending
      rw [hgot, haccepted, hscan, hkbd, hsent, hfull, hqueue, hdata, ← hold, hfirst]
      simp
    refine ⟨hdelivered, ?_, hdelivered, fun _ _ => ?_, fun hl => ?_, fun hc => ?_⟩
    · rw [hkbd, hsent, hqueue]
      exact hgood
    · rw [hkbd, hsent]
      exact Or.inl hzero
    · rw [hlate'] at hl
      exact absurd hl Bool.false_ne_true
    · rw [hkbd, hsent] at hc ⊢
      exact hwaiting hc

/-! ## A command -/

lemma typed_command (h : Typed w) (hcount : e ≠ .count) (hread : e ≠ .dataRead) (hcodes : codesOf e = none) :
    Delivered (typingStep w e) ∧ Typed (typingStep w e) := by
  have hlines : (kbdStep w.kbd e).queue = w.kbd.queue ∧ (kbdStep w.kbd e).data = w.kbd.data ∧
      isFull (kbdStep w.kbd e).stat = isFull w.kbd.stat ∧
      ((kbdStep w.kbd e).command = 0xfe → w.kbd.command = 0xfe) ∧
      (hurries e = false → (kbdStep w.kbd e).kcallback = w.kbd.kcallback ∧ (kbdStep w.kbd e).reset = w.kbd.reset ∨
        (kbdStep w.kbd e).reset = 1) := by
    cases e with
    | count => exact absurd rfl hcount
    | dataRead => exact absurd rfl hread
    | press codes =>
      cases codes with
      | none => exact ⟨rfl, rfl, rfl, id, fun _ => Or.inl ⟨rfl, rfl⟩⟩
      | some codes => simp [codesOf] at hcodes
    | release codes =>
      cases codes with
      | none => exact ⟨rfl, rfl, rfl, id, fun _ => Or.inl ⟨rfl, rfl⟩⟩
      | some codes => simp [codesOf] at hcodes
    | dataWrite v =>
      refine ⟨?_, ?_, ?_, ?_, fun hnot => absurd hnot (by simp [hurries])⟩
      all_goals
        rw [kbdStep, keyboardDataWrite]
        split_ifs <;> simp [kbdCmdEnable]
    | controlWrite v =>
      rw [kbdStep, keyboardControlWrite]
      dsimp only
      split_ifs <;> simp
  obtain ⟨hqueue, hdata, hfull, hcommand, hcallback⟩ := hlines
  have hscan : (typingStep w e).scan = w.scan := by
    change (sendingNow w.kbd e).getD w.scan = w.scan
    rw [sendingNow_of_ne hcount]
    rfl
  have haccepted : (typingStep w e).accepted = w.accepted := by
    change w.accepted ++ ((codesOf e).filter (fits w.kbd)).toList = w.accepted
    rw [hcodes]
    exact List.append_nil _
  have hdelivered :=
    (delivered_congr (typingStep w e) haccepted (got_of_ne hread) hscan hqueue hdata hfull).mpr h.delivered
  have hlate : (typingStep w e).late = (w.late || (hurries e && isFull w.kbd.stat)) := by simp [typingStep, hread]
  refine ⟨hdelivered, ?_, hdelivered, fun hf hl => ?_, fun hl => ?_, fun hc => ?_⟩
  · change Good ps2QueueSize (kbdStep w.kbd e).queue
    rw [hqueue]
    exact h.good
  · change isFull (kbdStep w.kbd e).stat = true at hf
    rw [hfull] at hf
    rw [hlate, hf, Bool.and_true, Bool.or_eq_false_iff] at hl
    obtain ⟨hsame, hreset⟩ | hone := hcallback hl.2
    · exact (h.quiet hf hl.1).imp hsame.trans hreset.trans
    · exact Or.inr hone
  · change isFull (kbdStep w.kbd e).stat = true
    rw [hlate, Bool.or_eq_true, Bool.and_eq_true] at hl
    rw [hfull]
    exact hl.elim h.late fun hboth => hboth.2
  · change 0 < (kbdStep w.kbd e).queue.count
    rw [hqueue]
    exact h.waiting (hcommand hc)

/-! ## One event after another -/

/-- **One event**: in time, or not. -/
lemma timely_iff (h : Typed w) (e : KbdEvent) :
    Timely w e ↔ ¬Replaces w e ∧ Delivered (typingStep w e) := by
  by_cases hcount : e = .count
  · subst hcount
    cases hsends : sendingNow w.kbd .count with
    | none =>
      refine iff_of_true ⟨?_, nofun, fun codes hc => ?_⟩ ⟨?_, (typed_quiet h hsends).1⟩
      · simp [hsends]
      · simp [codesOf] at hc
      · simp [Replaces, hsends]
    | some fromQueue =>
      constructor
      · intro htimely
        obtain ⟨hempty, hdelivered, -⟩ := typed_sent h hsends (htimely.sent (by rw [hsends]; rfl))
        refine ⟨fun hreplaces => ?_, hdelivered⟩
        have hfull := hreplaces.2
        rw [hempty] at hfull
        exact absurd hfull Bool.false_ne_true
      · rintro ⟨hreplaces, -⟩
        refine ⟨fun hsome => ?_, nofun, fun codes hc => ?_⟩
        · cases hlate : w.late with
          | false => rfl
          | true => exact absurd ⟨hsome, h.late hlate⟩ hreplaces
        · simp [codesOf] at hc
  · have hnone := sendingNow_of_ne (s := w.kbd) hcount
    have hnot : ¬Replaces w e := by simp [Replaces, hnone]
    by_cases hread : e = .dataRead
    · subst hread
      constructor
      · intro htimely
        exact ⟨hnot, (delivered_read h).mp (htimely.read rfl)⟩
      · rintro ⟨-, hdelivered⟩
        refine ⟨?_, fun _ => (delivered_read h).mpr hdelivered, fun codes hc => ?_⟩
        · simp [hnone]
        · simp [codesOf] at hc
    · cases hcodes : codesOf e with
      | none =>
        refine iff_of_true ⟨?_, fun hr => absurd hr hread, fun codes hc => ?_⟩ ⟨hnot, (typed_command h hcount hread hcodes).1⟩
        · simp [hnone]
        · simp [hcodes] at hc
      | some codes =>
        constructor
        · intro htimely
          exact ⟨hnot, (delivered_key h hcodes).mp (htimely.room codes hcodes)⟩
        · rintro ⟨-, hdelivered⟩
          refine ⟨?_, fun hr => absurd hr hread, fun codes' hc => ?_⟩
          · simp [hnone]
          · rw [hcodes, Option.some.injEq] at hc
            rw [← hc]
            exact (delivered_key h hcodes).mpr hdelivered

lemma typed_step (h : Typed w) (e : KbdEvent) (htimely : Timely w e) : Typed (typingStep w e) := by
  obtain ⟨-, hdelivered⟩ := (timely_iff h e).mp htimely
  by_cases hcount : e = .count
  · subst hcount
    cases hsends : sendingNow w.kbd .count with
    | none => exact (typed_quiet h hsends).2
    | some fromQueue => exact (typed_sent h hsends (htimely.sent (by rw [hsends]; rfl))).2.2
  · by_cases hread : e = .dataRead
    · subst hread
      exact typed_read h hdelivered
    · cases hcodes : codesOf e with
      | none => exact (typed_command h hcount hread hcodes).2
      | some codes => exact typed_key h hcodes hdelivered

end Step

def Typing.start : Typing := ⟨keyboardReset, [], [], false, false⟩

/-- **Every keystroke byte reaches the guest once, in order, in whole scancodes**, and none is replaced before it is
read, exactly in the runs in which the guest is in time. -/
theorem delivered_iff (es : List KbdEvent) :
    Runs.Along typingStep Timely Typing.start es ↔
      Runs.Along typingStep (fun w e => ¬Replaces w e ∧ Delivered (typingStep w e)) Typing.start es := by
  have hstart : Typed Typing.start :=
    ⟨good_clear (by decide : 0 < ps2QueueSize) keyboardReset.queue, rfl, fun h => absurd h (by decide), fun h => absurd h (by decide),
      fun h => absurd h (by decide)⟩
  exact Runs.along_iff_of_inv (I := Typed) (fun _ e hs ht => typed_step hs e ht) (fun _ e hs => timely_iff hs e) es _ hstart

def keyWhileUnread : List KbdEvent :=
  .press (some [0x1c]) :: List.replicate 20 .count ++ .press (some [0x32]) :: List.replicate 20 .count

theorem not_delivered :
    ¬Runs.Along typingStep (fun w e => ¬Replaces w e ∧ Delivered (typingStep w e)) Typing.start keyWhileUnread := by
  decide +kernel

end RpcEmu.Ps2
