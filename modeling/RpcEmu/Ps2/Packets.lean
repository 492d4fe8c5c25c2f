import RpcEmu.Ps2.Mouse
import RpcEmu.Lib.Runs

/-!
# The packets of the mouse

Beside the mouse is watched what each byte of its queue is: an answer, or of a packet.

* **`Report`** is a movement that the mouse tells, and the packet it tells it by.  `decode_packet`: the packet says
  what is reported, but for a movement of 256 downwards.
* **`late`**: the count has been set while a byte was unread, by a command, by a packet or by a reset that goes on.
* **`resent`**: a RESEND has come with nothing to send, and nothing has come since.
-/

namespace RpcEmu.Ps2.Packets

open CountedRing

/-! ## One packet -/

structure Report where
  buttons : UInt8
  dx : Int
  dy : Int
  bytes : List UInt8

/-- The packet decodes to the movement. -/
def Report.Says (r : Report) : Prop :=
  (r.bytes.length = 3 ∨ r.bytes.length = 4) ∧ decode r.bytes = some (r.buttons, r.dx, r.dy)

def report (cfg : MouseConfig) (s : Mouse) : Report := ⟨shownButtons cfg s, clamp s.dx, -clamp s.dy, packet cfg s⟩

lemma head_bits (b : UInt8) (sx sy : Bool) :
    headByte b sx sy &&& 7 = b &&& 7 ∧ (headByte b sx sy &&& 0x10 ≠ 0 ↔ sx = true) ∧
      (headByte b sx sy &&& 0x20 ≠ 0 ↔ sy = true) := by
  cases sx <;> cases sy
  all_goals
    exact forall_stat (P := fun b => headByte b _ _ &&& 7 = b &&& 7 ∧ (headByte b _ _ &&& 0x10 ≠ 0 ↔ _ = true) ∧
      (headByte b _ _ &&& 0x20 ≠ 0 ↔ _ = true)) (by decide +kernel) b

lemma shownButtons_low (cfg : MouseConfig) (s : Mouse) : shownButtons cfg s &&& 7 = shownButtons cfg s := by
  unfold shownButtons
  split
  · exact forall_stat (P := fun b => exchanged (b &&& 7) &&& 7 = exchanged (b &&& 7)) (by decide +kernel) s.buttons
  · exact forall_stat (P := fun b => (b &&& 7) &&& 7 = b &&& 7) (by decide +kernel) s.buttons

lemma nine_bits {x : Int} (hlow : -256 ≤ x) (hhigh : x ≤ 256) :
    ((UInt8.ofInt x).toNat : Int) - (if bit8 x = true then 256 else 0) = x ↔ x ≠ 256 := by
  have hbyte : ((UInt8.ofInt x).toNat : Int) = x % 256 := by
    have hnat : (UInt8.ofInt x).toNat = (x % 2 ^ 8).toNat % 2 ^ 8 := UInt8.toNat_ofNat'
    rw [hnat]
    omega
  have hbit : bit8 x = true ↔ x / 256 % 2 = 1 := decide_eq_true_iff
  rw [hbyte]
  split_ifs with hb <;> rw [hbit] at hb <;> omega

lemma length_packet (cfg : MouseConfig) (s : Mouse) :
    (report cfg s).bytes.length = 3 ∨ (report cfg s).bytes.length = 4 := by
  change (packet cfg s).length = 3 ∨ (packet cfg s).length = 4
  unfold packet wheelBytes
  split_ifs <;> simp

/-- **A packet says what is reported**, but for a movement of 256 downwards. -/
lemma decode_packet (cfg : MouseConfig) (s : Mouse) : (report cfg s).Says ↔ (report cfg s).dy ≠ 256 := by
  have hx : -256 ≤ clamp s.dx ∧ clamp s.dx ≤ 255 := by
    unfold clamp
    omega
  have hy : -256 ≤ clamp s.dy ∧ clamp s.dy ≤ 255 := by
    unfold clamp
    omega
  obtain ⟨hbuttons, hsx, hsy⟩ := head_bits (shownButtons cfg s) (bit8 (clamp s.dx)) (bit8 (-clamp s.dy))
  have hdx := (nine_bits hx.1 (by omega)).mpr (by omega)
  have hdy := nine_bits (x := -clamp s.dy) (by omega) (by omega)
  rw [Report.Says, and_iff_right (length_packet cfg s)]
  change decode (packet cfg s) = some (shownButtons cfg s, clamp s.dx, -clamp s.dy) ↔ -clamp s.dy ≠ 256
  rw [packet, List.cons_append, List.cons_append, List.cons_append, decode, hbuttons, shownButtons_low]
  simp only [hsx, hsy, hdx, Option.some.injEq, Prod.mk.injEq, true_and]
  exact hdy

/-! ## What is watched -/

/-- The mouse as `mouse_process` finds it. -/
def moved (s : Mouse) : MouseEvent → Option Mouse
  | .move dx dy => some { s with dx, dy }
  | .press buttons => some { s with buttons := s.buttons ||| buttons }
  | .release buttons => some { s with buttons := s.buttons &&& ~~~buttons }
  | _ => none

def reportOf (cfg : MouseConfig) (s : Mouse) (e : MouseEvent) : Option Report :=
  ((moved s e).filter (tells cfg)).map (report cfg)

def answerOf (s : Mouse) : MouseEvent → List UInt8
  | .dataWrite val =>
    if s.msincommand ≠ 0 then
      if s.msincommand = auxSetRes then [auxAck] else if s.msincommand = auxSetSample then [auxAck] else []
    else if val = auxReset then []
    else if val = auxResend then []
    else if val = auxEnableDev then [auxAck]
    else if val = auxSetSample then [auxAck]
    else if val = auxGetType then [auxAck, s.mouseType]
    else if val = auxSetRes then [auxAck]
    else if val = auxSetScale21 ∨ val = auxSetScale11 then [auxAck]
    else []
  | _ => []

/-- What an event queues; `true` is a byte of a packet. -/
def queuedBy (cfg : MouseConfig) (s : Mouse) (e : MouseEvent) : List (Bool × UInt8) :=
  match reportOf cfg s e with
  | some r => r.bytes.map (true, ·)
  | none => (answerOf s e).map (false, ·)

def fits (s : Mouse) (r : Report) : Bool := s.msqueue.count + r.bytes.length ≤ ps2QueueSize

def fires (s : Mouse) (e : MouseEvent) : Bool := e == .count && (0 < s.mcallback && s.mcallback ≤ 10)

def sendingNow (s : Mouse) (e : MouseEvent) : Option Bool :=
  if !fires s e || s.msreset == 1 then none else some (s.msreset ∉ [2, 3, 4])

def hurries (cfg : MouseConfig) (s : Mouse) : MouseEvent → Bool
  | .dataWrite _ => true
  | .controlWrite v => v &&& ps2ControlEnable != 0
  | e => (reportOf cfg s e).isSome

/-- The mouse, its queue with what each byte is, the packets queued, the bytes of them that have been read, whether the
byte in the data register is one of them, and what has come too early. -/
structure Moving where
  mouse : Mouse
  tagged : List (Bool × UInt8)
  packets : List Report
  got : List UInt8
  ofPacket : Bool
  late : Bool
  resent : Bool

def movingStep (cfg : MouseConfig) (w : Moving) (e : MouseEvent) : Moving where
  mouse := mouseStep cfg w.mouse e
  tagged := (if sendingNow w.mouse e = some true then w.tagged.tail else w.tagged) ++
    (queuedBy cfg w.mouse e).take (ps2QueueSize - w.mouse.msqueue.count)
  packets := w.packets ++ ((reportOf cfg w.mouse e).filter (fits w.mouse)).toList
  got := if e = .dataRead ∧ w.ofPacket = true ∧ isFull w.mouse.msstat = true then w.got ++ [(mouseDataRead w.mouse).1] else w.got
  ofPacket :=
    match sendingNow w.mouse e with
    | some fromQueue => fromQueue && (w.tagged.head?.map Prod.fst).getD false
    | none => w.ofPacket
  late := e != .dataRead &&
    (w.late || (hurries cfg w.mouse e && isFull w.mouse.msstat) ||
      (sendingNow w.mouse e == some false && w.mouse.msreset != 4))
  resent := (mouseStep cfg w.mouse e).msqueue.count == 0 &&
    (w.resent || (e == .dataWrite auxResend && w.mouse.msincommand == 0))

def ofPackets (bytes : List (Bool × UInt8)) : List UInt8 := (bytes.filter Prod.fst).map Prod.snd

def pending (w : Moving) : List UInt8 := if w.ofPacket && isFull w.mouse.msstat then [w.mouse.msdata] else []

/-- **Every byte of a packet is there once, in order.** -/
def Delivered (w : Moving) : Prop := w.got ++ pending w ++ ofPackets w.tagged = w.packets.flatMap Report.bytes

/-- A byte is sent over one not yet read. -/
def Replaces (w : Moving) (e : MouseEvent) : Prop := (sendingNow w.mouse e).isSome = true ∧ isFull w.mouse.msstat = true

/-- **What is to hold of an event.** -/
structure Right (cfg : MouseConfig) (w : Moving) (e : MouseEvent) : Prop where
  asserts : fires w.mouse e = true → CallbackAsserts w.mouse
  kept : ¬Replaces w e
  delivered : Delivered (movingStep cfg w e)
  told : ∀ r ∈ (movingStep cfg w e).packets, r.Says

/-- **The guest is in time, and the movements are in range.** -/
structure InTime (cfg : MouseConfig) (w : Moving) (e : MouseEvent) : Prop where
  sent : (sendingNow w.mouse e).isSome = true → w.late = false
  resend : sendingNow w.mouse e = some true → w.resent = false
  room : ∀ r, reportOf cfg w.mouse e = some r → fits w.mouse r = true ∨ w.mouse.msqueue.count = ps2QueueSize
  down : ∀ r, reportOf cfg w.mouse e = some r → fits w.mouse r = true → r.dy ≠ 256

/-- What has been delivered is whole packets, and a full port is quiet. -/
structure Whole (w : Moving) : Prop where
  good : Good ps2QueueSize w.mouse.msqueue
  tags : queued w.mouse.msqueue = w.tagged.map Prod.snd
  delivered : Delivered w
  told : ∀ r ∈ w.packets, r.Says
  quiet : isFull w.mouse.msstat = true → w.late = false → w.mouse.mcallback = 0
  late : w.late = true → isFull w.mouse.msstat = true
  asserts : 0 < w.mouse.mcallback → CallbackAsserts w.mouse ∨ w.resent = true
  resent : w.resent = true → w.mouse.msqueue.count = 0

/-! ## The bytes of packets among the others -/

section Tags

variable {bytes bytes' : List (Bool × UInt8)}

@[simp] lemma ofPackets_append : ofPackets (bytes ++ bytes') = ofPackets bytes ++ ofPackets bytes' := by
  simp [ofPackets]

@[simp] lemma ofPackets_true (bs : List UInt8) : ofPackets (bs.map (true, ·)) = bs := by
  simp [ofPackets, List.filter_map, Function.comp_def]

@[simp] lemma ofPackets_false (bs : List UInt8) : ofPackets (bs.map (false, ·)) = [] := by
  simp [ofPackets, List.filter_map, Function.comp_def]

end Tags

/-! ## What an event does to the mouse -/

section Step

variable {cfg : MouseConfig} {w : Moving} {s s' : Mouse} {e : MouseEvent}

lemma mouseStep_moved (h : moved s e = some s') : mouseStep cfg s e = mouseProcess cfg s' := by
  cases e <;> simp only [moved, Option.some.injEq, reduceCtorEq] at h <;> rw [← h] <;> rfl

lemma moved_lines (h : moved s e = some s') :
    s'.msqueue = s.msqueue ∧ s'.msdata = s.msdata ∧ s'.msstat = s.msstat ∧ s'.msreset = s.msreset ∧
      s'.mcallback = s.mcallback := by
  cases e <;> simp only [moved, Option.some.injEq, reduceCtorEq] at h <;> rw [← h] <;> exact ⟨rfl, rfl, rfl, rfl, rfl⟩

variable (cfg) in
lemma reportOf_moved (h : moved s e = some s') :
    reportOf cfg s e = if tells cfg s' then some (report cfg s') else none := by
  rw [reportOf, h, Option.filter]
  split_ifs <;> rfl

lemma answerOf_moved (h : moved s e = some s') : answerOf s e = [] := by
  cases e <;> simp only [moved, reduceCtorEq] at h <;> rfl

lemma detect_lines (s : Mouse) (val : UInt8) :
    (detect s val).msqueue = s.msqueue ∧ (detect s val).msdata = s.msdata ∧ (detect s val).msstat = s.msstat ∧
      (detect s val).msreset = s.msreset := by
  unfold detect
  split
  · exact ⟨rfl, rfl, rfl, rfl⟩
  · exact ⟨rfl, rfl, rfl, rfl⟩
  · exact ⟨rfl, rfl, rfl, rfl⟩
  · split_ifs <;> exact ⟨rfl, rfl, rfl, rfl⟩

lemma writeEntry_full (s : Mouse) : isFull (writeEntry s).msstat = isFull s.msstat := (isFull_txBusyEmpty s.msstat).1

/-- **A command**: its answer is queued; without one the count is as it was, or a reset begins, or it is a RESEND. -/
lemma dataWrite_lines (s : Mouse) (val : UInt8) :
    ((mouseDataWrite s val).getD s).msqueue = ps2QueueAll s.msqueue (answerOf s (.dataWrite val)) ∧
      ((mouseDataWrite s val).getD s).msdata = s.msdata ∧
      isFull ((mouseDataWrite s val).getD s).msstat = isFull s.msstat ∧
      (answerOf s (.dataWrite val) = [] →
        ((mouseDataWrite s val).getD s).mcallback = s.mcallback ∧ ((mouseDataWrite s val).getD s).msreset = s.msreset ∨
          ((mouseDataWrite s val).getD s).msreset = 2 ∨ val = auxResend ∧ s.msincommand = 0 ∧
            ((mouseDataWrite s val).getD s).msreset = s.msreset) := by
  have hdetect := detect_lines (writeEntry s) val
  have hfull := writeEntry_full s
  have hincommand : (writeEntry s).msincommand = s.msincommand := rfl
  unfold mouseDataWrite answerOf
  simp only [hincommand]
  split_ifs
  · exact ⟨rfl, rfl, hfull, nofun⟩
  · refine ⟨?_, hdetect.2.1, ?_, nofun⟩
    · exact congrArg (fun q => ps2QueueAll q [auxAck]) hdetect.1
    · exact (congrArg isFull hdetect.2.2.1).trans hfull
  · exact ⟨rfl, rfl, hfull, fun _ => Or.inl ⟨rfl, rfl⟩⟩
  · exact ⟨rfl, rfl, hfull, fun _ => Or.inr (Or.inl rfl)⟩
  case pos hin _ hresend =>
    exact ⟨rfl, rfl, hfull, fun _ => Or.inr (Or.inr ⟨hresend, not_not.mp hin, rfl⟩)⟩
  case neg => exact ⟨rfl, rfl, rfl, fun _ => Or.inl ⟨rfl, rfl⟩⟩
  all_goals exact ⟨rfl, rfl, hfull, nofun⟩

lemma queue_step (he : e ≠ .count) :
    (mouseStep cfg s e).msqueue = ps2QueueAll s.msqueue ((queuedBy cfg s e).map Prod.snd) := by
  cases hmoved : moved s e with
  | some s' =>
    obtain ⟨hqueue, -⟩ := moved_lines hmoved
    rw [mouseStep_moved hmoved, queuedBy, reportOf_moved cfg hmoved, answerOf_moved hmoved, mouseProcess]
    split_ifs
    · simp [hqueue, report, Function.comp_def]
    · rw [hqueue]
      rfl
  | none =>
    have hreport : reportOf cfg s e = none := by
      rw [reportOf, hmoved]
      rfl
    have hqueued : (queuedBy cfg s e).map Prod.snd = answerOf s e := by
      rw [queuedBy, hreport]
      simp [Function.comp_def]
    rw [hqueued]
    cases e with
    | count => exact absurd rfl he
    | dataWrite val => exact (dataWrite_lines s val).1
    | controlWrite v =>
      rw [mouseStep, mouseControlWrite]
      split_ifs <;> rfl
    | dataRead => rfl
    | _ => simp [moved] at hmoved

variable (cfg) in
lemma lines_step (hcount : e ≠ .count) (hread : e ≠ .dataRead) :
    (mouseStep cfg s e).msdata = s.msdata ∧ isFull (mouseStep cfg s e).msstat = isFull s.msstat ∧
      (hurries cfg s e = false → (mouseStep cfg s e).mcallback = s.mcallback) ∧
      (queuedBy cfg s e = [] →
        (mouseStep cfg s e).mcallback = s.mcallback ∧ (mouseStep cfg s e).msreset = s.msreset ∨
          (mouseStep cfg s e).msreset ∈ [1, 2, 3, 4] ∨ e = .dataWrite auxResend ∧ s.msincommand = 0) := by
  cases hmoved : moved s e with
  | some s' =>
    obtain ⟨-, hdata, hstat, hreset, hcallback⟩ := moved_lines hmoved
    have hhurries : hurries cfg s e = tells cfg s' := by
      have hreport := reportOf_moved cfg hmoved
      cases e with
      | dataWrite val => simp [moved] at hmoved
      | controlWrite v => simp [moved] at hmoved
      | count => exact absurd rfl hcount
      | dataRead => exact absurd rfl hread
      | _ =>
        change (reportOf cfg s _).isSome = _
        rw [hreport]
        split_ifs with htells <;> simp [htells]
    rw [mouseStep_moved hmoved, mouseProcess, hhurries, queuedBy, reportOf_moved cfg hmoved]
    split_ifs with htells
    · exact ⟨hdata, congrArg isFull hstat, fun hnot => absurd htells (by simp [hnot]), fun hnil => by simp [report, packet] at hnil⟩
    · exact ⟨hdata, congrArg isFull hstat, fun _ => hcallback, fun _ => Or.inl ⟨hcallback, hreset⟩⟩
  | none =>
    have hreport : reportOf cfg s e = none := by
      rw [reportOf, hmoved]
      rfl
    cases e with
    | count => exact absurd rfl hcount
    | dataRead => exact absurd rfl hread
    | dataWrite val =>
      obtain ⟨-, hdata, hfull, hcases⟩ := dataWrite_lines s val
      refine ⟨hdata, hfull, fun hnot => by simp [hurries] at hnot, fun hnil => ?_⟩
      rw [queuedBy, hreport, List.map_eq_nil_iff] at hnil
      refine (hcases hnil).imp id fun hor => hor.imp (fun htwo => ?_) fun hresend => ⟨by rw [hresend.1], hresend.2.1⟩
      change ((mouseDataWrite s val).getD s).msreset ∈ _
      rw [htwo]
      decide
    | controlWrite v =>
      rw [mouseStep, mouseControlWrite, hurries]
      by_cases hon : v &&& ps2ControlEnable ≠ 0
      · rw [if_pos hon]
        refine ⟨rfl, isFull_enable s.msstat, fun hnot => absurd hnot (by simpa using hon), fun _ => Or.inr (Or.inl ?_)⟩
        exact List.mem_cons_self
      · rw [if_neg hon]
        exact ⟨rfl, isFull_disable s.msstat, fun _ => rfl, fun _ => Or.inl ⟨rfl, rfl⟩⟩
    | _ => simp [moved] at hmoved

variable (cfg) in
lemma room_step (hcount : e ≠ .count) (hgood : Good ps2QueueSize s.msqueue) :
    (mouseStep cfg s e).msqueue.count = min (s.msqueue.count + (queuedBy cfg s e).length) ps2QueueSize := by
  rw [queue_step hcount, count_ps2QueueAll hgood, List.length_map]

lemma sendingNow_of_ne (hcount : e ≠ .count) : sendingNow s e = none := by
  simp [sendingNow, fires, hcount]

/-! ## A movement or a command -/

def added (cfg : MouseConfig) (s : Mouse) (e : MouseEvent) : List (Bool × UInt8) :=
  (queuedBy cfg s e).take (ps2QueueSize - s.msqueue.count)

lemma tagged_step (hcount : e ≠ .count) : (movingStep cfg w e).tagged = w.tagged ++ added cfg w.mouse e := by
  simp [movingStep, added, sendingNow_of_ne hcount]

variable (cfg) in
lemma read_step (hcount : e ≠ .count) (hread : e ≠ .dataRead) :
    (movingStep cfg w e).got = w.got ∧ pending (movingStep cfg w e) = pending w := by
  obtain ⟨hdata, hfull, -⟩ := lines_step cfg (s := w.mouse) hcount hread
  refine ⟨if_neg fun h => hread h.1, ?_⟩
  have hof : (movingStep cfg w e).ofPacket = w.ofPacket := by simp [movingStep, sendingNow_of_ne hcount]
  unfold pending
  rw [hof]
  change (if w.ofPacket && isFull (mouseStep cfg w.mouse e).msstat then [(mouseStep cfg w.mouse e).msdata] else []) = _
  rw [hdata, hfull]

lemma ofPackets_added_none (h : reportOf cfg s e = none) : ofPackets (added cfg s e) = [] := by
  rw [added, queuedBy, h]
  dsimp only
  rw [← List.map_take, ofPackets_false]

lemma ofPackets_added_some {r : Report} (h : reportOf cfg s e = some r) :
    ofPackets (added cfg s e) = r.bytes.take (ps2QueueSize - s.msqueue.count) := by
  rw [added, queuedBy, h]
  dsimp only
  rw [← List.map_take, ofPackets_true]

lemma reportOf_eq {r : Report} (h : reportOf cfg s e = some r) : ∃ s', r = report cfg s' := by
  rw [reportOf, Option.map_eq_some_iff] at h
  obtain ⟨s', -, hr⟩ := h
  exact ⟨s', hr.symm⟩

lemma reportOf_bytes {r : Report} (h : reportOf cfg s e = some r) : 0 < r.bytes.length := by
  obtain ⟨s', rfl⟩ := reportOf_eq h
  have hlength := length_packet cfg s'
  omega

/-- **A packet** is queued as a whole, or not at all, if the room is as it should be. -/
lemma delivered_step (h : Whole w) (hcount : e ≠ .count) (hread : e ≠ .dataRead) :
    (∀ r, reportOf cfg w.mouse e = some r → fits w.mouse r = true ∨ w.mouse.msqueue.count = ps2QueueSize) ↔
      Delivered (movingStep cfg w e) := by
  obtain ⟨hgot, hpending⟩ := read_step cfg (w := w) hcount hread
  have hold := h.delivered
  unfold Delivered at hold ⊢
  rw [hgot, hpending, tagged_step hcount, ofPackets_append, ← List.append_assoc, hold, movingStep]
  cases hreport : reportOf cfg w.mouse e with
  | none =>
    rw [ofPackets_added_none hreport]
    simp
  | some r =>
    have hlength := reportOf_bytes hreport
    have hle := h.good.count_le
    rw [ofPackets_added_some hreport, List.flatMap_append, List.append_cancel_left_eq]
    simp only [Option.some.injEq, forall_eq', Option.filter]
    by_cases hfits : fits w.mouse r = true
    · have hroom := of_decide_eq_true hfits
      rw [List.take_of_length_le (by omega)]
      simp [hfits]
    · simp only [hfits, Bool.false_eq_true, false_or, ↓reduceIte, Option.toList_none, List.flatMap_nil]
      rw [← List.length_eq_zero_iff, List.length_take]
      omega

/-- **What is told** can be told, if it is in range. -/
lemma told_step (h : Whole w) :
    (∀ r, reportOf cfg w.mouse e = some r → fits w.mouse r = true → r.dy ≠ 256) ↔
      ∀ r ∈ (movingStep cfg w e).packets, r.Says := by
  simp only [movingStep, List.mem_append, Option.mem_toList, Option.filter_eq_some_iff]
  constructor
  · rintro hdown r (hr | ⟨hreport, hfits⟩)
    · exact h.told r hr
    · obtain ⟨s', rfl⟩ := reportOf_eq hreport
      exact (decode_packet cfg s').mpr (hdown _ hreport hfits)
  · intro hall r hreport hfits
    obtain ⟨s', rfl⟩ := reportOf_eq hreport
    exact (decode_packet cfg s').mp (hall _ (Or.inr ⟨hreport, hfits⟩))

lemma tags_step (h : Whole w) (hcount : e ≠ .count) :
    queued (movingStep cfg w e).mouse.msqueue = (movingStep cfg w e).tagged.map Prod.snd := by
  have hqueue : (movingStep cfg w e).mouse.msqueue = ps2QueueAll w.mouse.msqueue ((queuedBy cfg w.mouse e).map Prod.snd) :=
    queue_step hcount
  rw [hqueue, queued_ps2QueueAll h.good, h.tags, tagged_step hcount, List.map_append, added, List.map_take]

lemma whole_step (h : Whole w) (hcount : e ≠ .count) (hread : e ≠ .dataRead)
    (hdelivered : Delivered (movingStep cfg w e)) (htold : ∀ r ∈ (movingStep cfg w e).packets, r.Says) :
    Whole (movingStep cfg w e) := by
  obtain ⟨-, hfull, hcallback, hcases⟩ := lines_step cfg (s := w.mouse) hcount hread
  have hroom := room_step cfg hcount h.good
  have hle := h.good.count_le
  have hlate : (movingStep cfg w e).late = (w.late || (hurries cfg w.mouse e && isFull w.mouse.msstat)) := by
    simp [movingStep, hread, sendingNow_of_ne hcount]
  refine ⟨?_, tags_step h hcount, hdelivered, htold, fun hf hl => ?_, fun hl => ?_, fun hrunning => ?_, fun hresent => ?_⟩
  · change Good ps2QueueSize (mouseStep cfg w.mouse e).msqueue
    rw [queue_step hcount]
    exact good_ps2QueueAll h.good _
  · change isFull (mouseStep cfg w.mouse e).msstat = true at hf
    rw [hfull] at hf
    rw [hlate, hf, Bool.and_true, Bool.or_eq_false_iff] at hl
    exact (hcallback hl.2).trans (h.quiet hf hl.1)
  · change isFull (mouseStep cfg w.mouse e).msstat = true
    rw [hlate, Bool.or_eq_true, Bool.and_eq_true] at hl
    rw [hfull]
    exact hl.elim h.late fun hboth => hboth.2
  · change 0 < (mouseStep cfg w.mouse e).mcallback at hrunning
    change (_ → 0 < (mouseStep cfg w.mouse e).msqueue.count) ∨ (movingStep cfg w e).resent = true
    by_cases hqueued : queuedBy cfg w.mouse e = []
    · have hsame : (mouseStep cfg w.mouse e).msqueue.count = w.mouse.msqueue.count := by
        rw [hroom, hqueued, List.length_nil]
        omega
      obtain ⟨hrun, hreset⟩ | hreset | ⟨rfl, hin⟩ := hcases hqueued
      · rw [hrun] at hrunning
        obtain hasserts | hresent := h.asserts hrunning
        · left
          intro hnot
          rw [hsame]
          exact hasserts (hreset ▸ hnot)
        · right
          simp [movingStep, hsame, h.resent hresent, hresent]
      · exact Or.inl fun hnot => absurd hreset hnot
      · by_cases hzero : w.mouse.msqueue.count = 0
        · right
          simp [movingStep, hsame, hzero, hin]
        · left
          intro _
          omega
    · left
      intro _
      have hpos := List.length_pos_iff.mpr hqueued
      have hsize : 0 < ps2QueueSize := by decide
      omega
  · have hboth : ((mouseStep cfg w.mouse e).msqueue.count == 0) = true := (Bool.and_eq_true_iff.mp hresent).1
    exact beq_iff_eq.mp hboth

/-! ## A read -/

/-- **A read** gets the byte that is to be read. -/
lemma delivered_read (h : Whole w) : Delivered (movingStep cfg w .dataRead) := by
  have hempty : isFull (movingStep cfg w .dataRead).mouse.msstat = false := isFull_readStat w.mouse.msstat
  have htagged : (movingStep cfg w .dataRead).tagged = w.tagged := by
    have hnone : queuedBy cfg w.mouse .dataRead = [] := rfl
    rw [tagged_step (e := .dataRead) nofun, added, hnone, List.take_nil, List.append_nil]
  have hpackets : (movingStep cfg w .dataRead).packets = w.packets := List.append_nil _
  have hold := h.delivered
  unfold Delivered at hold ⊢
  rw [htagged, hpackets, ← hold]
  congr 1
  have hnone : pending (movingStep cfg w .dataRead) = [] := by simp [pending, hempty]
  rw [hnone, List.append_nil]
  simp only [movingStep, pending, true_and, Bool.and_eq_true]
  split_ifs
  · rfl
  · exact (List.append_nil _).symm

lemma whole_read (h : Whole w) : Whole (movingStep cfg w .dataRead) := by
  have hempty : isFull (movingStep cfg w .dataRead).mouse.msstat = false := isFull_readStat w.mouse.msstat
  have hpackets : (movingStep cfg w .dataRead).packets = w.packets := List.append_nil _
  refine ⟨h.good, tags_step h nofun, delivered_read h, fun r hr => ?_, fun hf => ?_, fun hl => ?_, fun hrunning => ?_,
    fun hresent => ?_⟩
  · rw [hpackets] at hr
    exact h.told r hr
  · rw [hempty] at hf
    exact absurd hf Bool.false_ne_true
  · exact absurd hl Bool.false_ne_true
  · by_cases hzero : w.mouse.msqueue.count = 0
    · have hsame : (movingStep cfg w .dataRead).mouse.mcallback = w.mouse.mcallback := if_neg (not_not.mpr hzero)
      rw [hsame] at hrunning
      refine (h.asserts hrunning).imp id fun hresent => ?_
      simp [movingStep, mouseStep, mouseDataRead, hzero, hresent]
    · exact Or.inl fun _ => Nat.pos_of_ne_zero hzero
  · exact beq_iff_eq.mp (Bool.and_eq_true_iff.mp hresent).1

/-! ## The count -/

lemma countDown_of_not_fires (h : fires s .count = false) :
    mouseCountDown s = { s with mcallback := s.mcallback - 10 } ∧ (s.mcallback = 0 ∨ 10 < s.mcallback) := by
  have hor : s.mcallback = 0 ∨ 10 < s.mcallback := by
    simp [fires] at h
    omega
  refine ⟨?_, hor⟩
  unfold mouseCountDown
  obtain hzero | hmore := hor
  · rw [if_pos hzero, hzero]
    obtain ⟨⟩ := s
    simp_all
  · rw [if_neg (by omega), if_neg (by omega)]

lemma countDown_of_fires (h : fires s .count = true) :
    mouseCountDown s = mousePs2Callback { s with mcallback := 0 } := by
  simp [fires] at h
  unfold mouseCountDown
  rw [if_neg (by omega), if_pos h.2]

lemma callbackEntry_full (s : Mouse) : isFull (callbackEntry s).msstat = isFull s.msstat :=
  (isFull_txBusyEmpty s.msstat).2

lemma callback_enable (h : s.msreset = 1) :
    (mousePs2Callback s).msqueue = s.msqueue ∧ (mousePs2Callback s).msdata = s.msdata ∧
      isFull (mousePs2Callback s).msstat = isFull s.msstat ∧ (mousePs2Callback s).msreset = 3 := by
  have hentry : (callbackEntry s).msreset = 1 := h
  unfold mousePs2Callback
  dsimp only
  rw [if_pos hentry]
  exact ⟨rfl, rfl, callbackEntry_full s, rfl⟩

lemma callback_reset (h : s.msreset ∈ [2, 3, 4]) :
    (mousePs2Callback s).msqueue = s.msqueue ∧ isFull (mousePs2Callback s).msstat = true ∧
      (s.msreset = 4 → (mousePs2Callback s).mcallback = 0) ∧
      (s.msreset ≠ 4 → (mousePs2Callback s).msreset ∈ [1, 2, 3, 4]) := by
  have hentry : (callbackEntry s).msreset = s.msreset := rfl
  simp only [List.mem_cons, List.not_mem_nil, or_false] at h
  unfold mousePs2Callback
  dsimp only
  rw [hentry]
  obtain h | h | h := h <;> simp [h, mouseSend] <;> rfl

lemma callback_queue (h : s.msreset ∉ [1, 2, 3, 4]) :
    (mousePs2Callback s).msqueue = (ps2ReadData s.msqueue).2 ∧ (mousePs2Callback s).msdata = (ps2ReadData s.msqueue).1 ∧
      isFull (mousePs2Callback s).msstat = true ∧ (mousePs2Callback s).mcallback = s.mcallback := by
  simp only [List.mem_cons, List.not_mem_nil, or_false, not_or] at h
  have hentry : (callbackEntry s).msreset = s.msreset := rfl
  unfold mousePs2Callback
  dsimp only
  rw [hentry, if_neg h.1, if_neg h.2.1, if_neg h.2.2.1, if_neg h.2.2.2]
  exact ⟨rfl, rfl, isFull_sentStat _ _, rfl⟩

variable (cfg) in
lemma count_step :
    (movingStep cfg w .count).got = w.got ∧ (movingStep cfg w .count).packets = w.packets ∧
      (movingStep cfg w .count).tagged = (if sendingNow w.mouse .count = some true then w.tagged.tail else w.tagged) ∧
      (movingStep cfg w .count).late = (w.late || (sendingNow w.mouse .count == some false && w.mouse.msreset != 4)) ∧
      (movingStep cfg w .count).resent = ((mouseCountDown w.mouse).msqueue.count == 0 && w.resent) := by
  have hread : ¬(MouseEvent.count = .dataRead ∧ w.ofPacket = true ∧ isFull w.mouse.msstat = true) := fun h => nomatch h.1
  have hresend : (MouseEvent.count == .dataWrite auxResend) = false := rfl
  have hnone : queuedBy cfg w.mouse .count = [] := rfl
  have hhurries : hurries cfg w.mouse .count = false := rfl
  refine ⟨?_, List.append_nil _, ?_, ?_, ?_⟩
  · rw [movingStep, if_neg hread]
  · simp [movingStep, hnone]
  · simp [movingStep, hhurries]
  · simp [movingStep, mouseStep, hresend]

lemma sendingNow_eq (h : fires s .count = true) :
    sendingNow s .count = if s.msreset = 1 then none else some (decide (s.msreset ∉ [2, 3, 4])) := by
  by_cases hone : s.msreset = 1 <;> simp [sendingNow, h, hone]

/-- **The count goes on**, and nothing is sent. -/
lemma count_quiet (h : Whole w) (hnone : sendingNow w.mouse .count = none) :
    Delivered (movingStep cfg w .count) ∧ Whole (movingStep cfg w .count) := by
  obtain ⟨hgot, hpackets, htagged, hlate, hresent⟩ := count_step cfg (w := w)
  have hof : (movingStep cfg w .count).ofPacket = w.ofPacket := by simp [movingStep, hnone]
  rw [hnone, if_neg (by simp)] at htagged
  rw [hnone] at hlate
  simp only [Bool.false_and, Bool.or_false, Option.none_beq_some] at hlate
  have hlines : (mouseCountDown w.mouse).msqueue = w.mouse.msqueue ∧ (mouseCountDown w.mouse).msdata = w.mouse.msdata ∧
      isFull (mouseCountDown w.mouse).msstat = isFull w.mouse.msstat ∧
      (w.mouse.mcallback = 0 → (mouseCountDown w.mouse).mcallback = 0) ∧
      (0 < (mouseCountDown w.mouse).mcallback → 0 < w.mouse.mcallback ∧
        ((mouseCountDown w.mouse).msreset = w.mouse.msreset ∨ (mouseCountDown w.mouse).msreset = 3)) := by
    cases hfires : fires w.mouse .count with
    | false =>
      obtain ⟨hdown, hor⟩ := countDown_of_not_fires hfires
      rw [hdown]
      refine ⟨rfl, rfl, rfl, fun hzero => ?_, fun hpos => ⟨?_, Or.inl rfl⟩⟩
      · change w.mouse.mcallback - 10 = 0
        omega
      · change 0 < w.mouse.mcallback - 10 at hpos
        omega
    | true =>
      have hone : w.mouse.msreset = 1 := by
        by_contra hne
        rw [sendingNow_eq hfires, if_neg hne] at hnone
        simp at hnone
      obtain ⟨hqueue, hdata, hfull, hreset⟩ := callback_enable (s := { w.mouse with mcallback := 0 }) hone
      have hrunning : 0 < w.mouse.mcallback := by
        simp [fires] at hfires
        exact hfires.1
      rw [countDown_of_fires hfires]
      exact ⟨hqueue, hdata, hfull, fun hzero => absurd hzero hrunning.ne', fun _ => ⟨hrunning, Or.inr hreset⟩⟩
  obtain ⟨hqueue, hdata, hfull, hzero, hreset⟩ := hlines
  have hpending : pending (movingStep cfg w .count) = pending w := by
    unfold pending
    rw [hof]
    change (if w.ofPacket && isFull (mouseCountDown w.mouse).msstat then [(mouseCountDown w.mouse).msdata] else []) = _
    rw [hdata, hfull]
  have hdelivered : Delivered (movingStep cfg w .count) := by
    unfold Delivered
    rw [hgot, hpackets, htagged, hpending]
    exact h.delivered
  refine ⟨hdelivered, ?_, ?_, hdelivered, ?_, fun hf hl => ?_, fun hl => ?_, fun hrunning => ?_, fun hr => ?_⟩
  · change Good ps2QueueSize (mouseCountDown w.mouse).msqueue
    rw [hqueue]
    exact h.good
  · change queued (mouseCountDown w.mouse).msqueue = _
    rw [hqueue, htagged]
    exact h.tags
  · rw [hpackets]
    exact h.told
  · change isFull (mouseCountDown w.mouse).msstat = true at hf
    rw [hfull] at hf
    rw [hlate] at hl
    exact hzero (h.quiet hf hl)
  · change isFull (mouseCountDown w.mouse).msstat = true
    rw [hfull]
    exact h.late (hlate ▸ hl)
  · obtain ⟨hold, hsame | hthree⟩ := hreset hrunning
    · refine (h.asserts hold).imp (fun hasserts hnot => ?_) fun hresent' => ?_
      · change 0 < (mouseCountDown w.mouse).msqueue.count
        change (mouseCountDown w.mouse).msreset ∉ _ at hnot
        rw [hqueue]
        exact hasserts (hsame ▸ hnot)
      · rw [hresent, hqueue, h.resent hresent', hresent']
        rfl
    · left
      intro hnot
      change (mouseCountDown w.mouse).msreset ∉ _ at hnot
      rw [hthree] at hnot
      exact absurd (by decide) hnot
  · change (mouseCountDown w.mouse).msqueue.count = 0
    rw [hresent, Bool.and_eq_true] at hr
    exact beq_iff_eq.mp hr.1

variable (cfg) in
/-- **The count runs out**, and something is sent to a guest that has nothing to read. -/
lemma count_sent (h : Whole w) {fromQueue : Bool} (hsends : sendingNow w.mouse .count = some fromQueue)
    (hlate : w.late = false) (hresend : fromQueue = true → w.resent = false) :
    isFull w.mouse.msstat = false ∧ CallbackAsserts w.mouse ∧ Delivered (movingStep cfg w .count) ∧
      Whole (movingStep cfg w .count) := by
  obtain ⟨hgot, hpackets, htagged, hlate', hresent⟩ := count_step cfg (w := w)
  have hfires : fires w.mouse .count = true := by
    by_contra hnot
    simp [sendingNow, hnot] at hsends
  have hrunning : 0 < w.mouse.mcallback := by
    simp [fires] at hfires
    exact hfires.1
  have hone : w.mouse.msreset ≠ 1 := by
    intro hone
    rw [sendingNow_eq hfires, if_pos hone] at hsends
    simp at hsends
  have hfrom : (w.mouse.msreset ∉ [2, 3, 4]) = (fromQueue = true) := by
    rw [sendingNow_eq hfires, if_neg hone, Option.some.injEq] at hsends
    rw [← hsends]
    exact (decide_eq_true_eq).symm
  have hempty : isFull w.mouse.msstat = false := by
    cases hfull : isFull w.mouse.msstat with
    | false => rfl
    | true => exact absurd (h.quiet hfull hlate) hrunning.ne'
  have hdown := countDown_of_fires hfires
  have hof : (movingStep cfg w .count).ofPacket = (fromQueue && (w.tagged.head?.map Prod.fst).getD false) := by
    simp [movingStep, hsends]
  have hold := h.delivered
  have hnothing : pending w = [] := by simp [pending, hempty]
  unfold Delivered at hold
  rw [hnothing, List.append_nil] at hold
  refine ⟨hempty, ?_⟩
  cases fromQueue with
  | false =>
    have hreset : w.mouse.msreset ∈ [2, 3, 4] := by
      by_contra hnot
      rw [hfrom] at hnot
      exact absurd hnot Bool.false_ne_true
    obtain ⟨hqueue, hfull, hdone, hon⟩ := callback_reset (s := { w.mouse with mcallback := 0 }) hreset
    rw [← hdown] at hqueue hfull hdone hon
    rw [hsends, if_neg (by simp)] at htagged
    have hasserts : CallbackAsserts w.mouse := fun hnot => absurd (List.mem_cons_of_mem _ hreset) hnot
    have hdelivered : Delivered (movingStep cfg w .count) := by
      unfold Delivered pending
      rw [hgot, hpackets, htagged, hof]
      simpa using hold
    refine ⟨hasserts, hdelivered, ?_, ?_, hdelivered, ?_, fun hf hl => ?_, fun _ => hfull, fun hr => ?_, fun hr => ?_⟩
    · change Good ps2QueueSize (mouseCountDown w.mouse).msqueue
      rw [hqueue]
      exact h.good
    · change queued (mouseCountDown w.mouse).msqueue = _
      rw [hqueue, htagged]
      exact h.tags
    · rw [hpackets]
      exact h.told
    · -- only the last byte of a reset does not set the count again
      rw [hlate', hlate, hsends] at hl
      have hfour : w.mouse.msreset = 4 := by simpa using hl
      exact hdone hfour
    · left
      intro hnot
      by_cases hfour : w.mouse.msreset = 4
      · have hzero := hdone hfour
        change 0 < (mouseCountDown w.mouse).mcallback at hr
        exact absurd hzero hr.ne'
      · exact absurd (hon hfour) hnot
    · change (mouseCountDown w.mouse).msqueue.count = 0
      rw [hresent, Bool.and_eq_true] at hr
      exact beq_iff_eq.mp hr.1
  | true =>
    have hnot : w.mouse.msreset ∉ [1, 2, 3, 4] := by
      have hrest : w.mouse.msreset ∉ [2, 3, 4] := by
        rw [hfrom]
      exact fun hin => (List.mem_cons.mp hin).elim hone hrest
    have hasserts : CallbackAsserts w.mouse :=
      (h.asserts hrunning).resolve_right (by rw [hresend rfl]; exact Bool.false_ne_true)
    obtain ⟨hqueue, hdata, hfull, hcallback⟩ := callback_queue (s := { w.mouse with mcallback := 0 }) hnot
    obtain ⟨hfirst, hgood⟩ := queued_ps2ReadData h.good (hasserts hnot)
    rw [← hdown] at hqueue hdata hfull hcallback
    rw [hsends, if_pos rfl] at htagged
    have htags := h.tags
    obtain ⟨⟨tag, byte⟩, rest, hsplit⟩ : ∃ first rest, w.tagged = first :: rest := by
      rw [hfirst] at htags
      exact List.exists_cons_of_ne_nil fun hnil => by simp [hnil] at htags
    rw [hsplit, List.map_cons, hfirst, List.cons.injEq] at htags
    have hdelivered : Delivered (movingStep cfg w .count) := by
      have hpending : pending (movingStep cfg w .count) = if tag then [byte] else [] := by
        have hbyte : (mouseCountDown w.mouse).msdata = byte := hdata.trans htags.1
        unfold pending
        rw [hof, hsplit]
        change (if (true && tag) && isFull (mouseCountDown w.mouse).msstat then [(mouseCountDown w.mouse).msdata] else []) = _
        rw [hfull, hbyte, Bool.true_and, Bool.and_true]
      unfold Delivered
      rw [hgot, hpackets, htagged, hpending, ← hold, hsplit]
      cases tag <;> simp [ofPackets]
    refine ⟨hasserts, hdelivered, ?_, ?_, hdelivered, ?_, fun _ _ => hcallback, fun _ => hfull, fun hr => ?_, fun hr => ?_⟩
    · change Good ps2QueueSize (mouseCountDown w.mouse).msqueue
      rw [hqueue]
      exact hgood
    · change queued (mouseCountDown w.mouse).msqueue = _
      rw [hqueue, htagged, hsplit]
      exact htags.2
    · rw [hpackets]
      exact h.told
    · change 0 < (mouseCountDown w.mouse).mcallback at hr
      exact absurd hcallback hr.ne'
    · change (mouseCountDown w.mouse).msqueue.count = 0
      rw [hresent, Bool.and_eq_true] at hr
      exact beq_iff_eq.mp hr.1

/-! ## One event after another -/

/-- **One event**: in time, or not. -/
lemma inTime_iff (h : Whole w) (e : MouseEvent) : InTime cfg w e ↔ Right cfg w e := by
  by_cases hcount : e = .count
  · subst hcount
    have hreport : reportOf cfg w.mouse .count = none := rfl
    have htold : ∀ r ∈ (movingStep cfg w .count).packets, r.Says := by
      rw [(count_step cfg (w := w)).2.1]
      exact h.told
    cases hsends : sendingNow w.mouse .count with
    | none =>
      have hasserts : fires w.mouse .count = true → CallbackAsserts w.mouse := by
        intro hfires hnot
        rw [sendingNow_eq hfires] at hsends
        split_ifs at hsends with hone
        rw [hone] at hnot
        exact absurd List.mem_cons_self hnot
      refine iff_of_true ⟨?_, ?_, ?_, ?_⟩ ⟨hasserts, ?_, (count_quiet h hsends).1, htold⟩
      all_goals simp [hsends, hreport, Replaces]
    | some fromQueue =>
      constructor
      · intro hin
        obtain ⟨hempty, hasserts, hdelivered, -⟩ := count_sent cfg h hsends (hin.sent (by rw [hsends]; rfl))
          fun hfrom => hin.resend (by rw [hsends, hfrom])
        refine ⟨fun _ => hasserts, fun hreplaces => ?_, hdelivered, htold⟩
        have hfull := hreplaces.2
        rw [hempty] at hfull
        exact absurd hfull Bool.false_ne_true
      · intro hright
        refine ⟨fun hsome => ?_, fun hfrom => ?_, ?_, ?_⟩
        · cases hlate : w.late with
          | false => rfl
          | true => exact absurd ⟨hsome, h.late hlate⟩ hright.kept
        · -- the assertion fails of what a RESEND has set the count for
          have hfires : fires w.mouse .count = true := by
            by_contra hnot
            simp [sendingNow, hnot] at hsends
          have hnot : w.mouse.msreset ∉ [1, 2, 3, 4] := by
            rw [sendingNow_eq hfires] at hfrom
            split_ifs at hfrom with hone
            simp only [Option.some.injEq, decide_eq_true_eq] at hfrom
            exact fun hin => (List.mem_cons.mp hin).elim hone hfrom
          have hsome := hright.asserts hfires hnot
          cases hresent : w.resent with
          | false => rfl
          | true => exact absurd (h.resent hresent) hsome.ne'
        · simp [hreport]
        · simp [hreport]
  · have hnone := sendingNow_of_ne (s := w.mouse) hcount
    have hnot : ¬Replaces w e := by simp [Replaces, hnone]
    have hfires : fires w.mouse e = true → CallbackAsserts w.mouse := fun hf => by simp [fires, hcount] at hf
    by_cases hread : e = .dataRead
    · subst hread
      have htold : ∀ r ∈ (movingStep cfg w .dataRead).packets, r.Says := (told_step h).mp nofun
      refine iff_of_true ⟨?_, ?_, ?_, ?_⟩ ⟨hfires, hnot, delivered_read h, htold⟩
      · simp [hnone]
      · simp [hnone]
      · exact nofun
      · exact nofun
    · constructor
      · intro hin
        exact ⟨hfires, hnot, (delivered_step h hcount hread).mp hin.room, (told_step h).mp hin.down⟩
      · intro hright
        refine ⟨?_, ?_, (delivered_step h hcount hread).mpr hright.delivered, (told_step h).mpr hright.told⟩
        · simp [hnone]
        · simp [hnone]

lemma whole_of_inTime (h : Whole w) (e : MouseEvent) (hin : InTime cfg w e) : Whole (movingStep cfg w e) := by
  have hright := (inTime_iff h e).mp hin
  by_cases hcount : e = .count
  · subst hcount
    cases hsends : sendingNow w.mouse .count with
    | none => exact (count_quiet h hsends).2
    | some fromQueue =>
      exact (count_sent cfg h hsends (hin.sent (by rw [hsends]; rfl)) fun hfrom => hin.resend (by rw [hsends, hfrom])).2.2.2
  · by_cases hread : e = .dataRead
    · subst hread
      exact whole_read h
    · exact whole_step h hcount hread hright.delivered hright.told

end Step

def Moving.start : Moving := ⟨mouseReset, [], [], [], false, false, false⟩

/-- **The mouse keeps its packets whole and its assertions true**, and replaces no byte before it is read, exactly in
the runs in which the guest is in time and the movements are in range. -/
theorem packets_whole_iff (cfg : MouseConfig) (es : List MouseEvent) :
    Runs.Along (movingStep cfg) (InTime cfg) Moving.start es ↔ Runs.Along (movingStep cfg) (Right cfg) Moving.start es := by
  have hstart : Whole Moving.start :=
    ⟨good_clear (by decide : 0 < ps2QueueSize) mouseReset.msqueue, rfl, rfl, nofun, fun h => absurd h (by decide), nofun,
      fun h => absurd h (by decide), nofun⟩
  exact Runs.along_iff_of_inv (I := Whole) (fun _ e hs hin => whole_of_inTime hs e hin) (fun _ e hs => inTime_iff hs e) es _
    hstart

def threeButtons : MouseConfig := ⟨true, false⟩

theorem not_packets_whole :
    ¬Runs.Along (movingStep threeButtons) (Right threeButtons) Moving.start
      (.dataWrite auxResend :: List.replicate 15 .count) := by
  rw [List.replicate_succ', ← List.cons_append, Runs.along_append]
  rintro ⟨-, hlast⟩
  rw [Runs.along_cons] at hlast
  exact absurd (hlast.1.asserts (by decide +kernel) (by decide +kernel)) (by decide +kernel)

end RpcEmu.Ps2.Packets
