import RpcEmu.Ide.Atapi
import RpcEmu.Lib.Runs

/-!
# The data port's place in the buffer

The buffer has 131072 bytes, and `pos` goes up with every access of the data port until one of them puts it back:
a byte at 512, a halfword at 512 or at the end of an answer, the data of a packet at its end.

* **`isStray`**: when they have all come, `writeidew` takes more halfwords and puts nothing back.
* **`data_in_range_iff`**: that is the only way out of the buffer.
-/

namespace RpcEmu.Ide

open Runs

/-! ## The port -/

/-- `buffer`, in bytes. -/
def bufferSize : Nat := 131072

def touches (s : IdeState) : Access → List Nat
  | .writeByte _ | .readByte => [s.pos]
  | .writeHalf _ | .readHalf => [s.pos / 2 * 2, s.pos / 2 * 2 + 1]
  | _ => []

def isData : Access → Bool
  | .writeByte _ | .readByte | .writeHalf _ | .readHalf => true
  | _ => false

def isStray (s : IdeState) : Access → Bool
  | .writeHalf _ => s.packetstatus == 5
  | _ => false

/-- `filledByStrays` follows the stray halfwords: they have taken the place to the end of the buffer, and nothing has
put it back since. -/
structure DataPort where
  bus : IdeState
  filledByStrays : Bool

def dataStep (w : DataPort) (e : Atapi × Access) : DataPort :=
  let bus := step e.1.cd w.bus e.2
  { bus
    filledByStrays :=
      if isStray w.bus e.2 then decide (bufferSize ≤ w.bus.pos + 2)
      else w.filledByStrays && decide (w.bus.pos ≤ bus.pos) }

def dataStart (s : IdeState) : DataPort := ⟨resetSharedState s, false⟩

/-- Every index the access uses is inside the buffer. -/
def DataInRange (w : DataPort) (e : Atapi × Access) : Prop := ∀ i ∈ touches w.bus e.2, i < bufferSize

/-- No data access meets the port that strays have filled. -/
def LeftWhenFull (w : DataPort) (e : Atapi × Access) : Prop := isData e.2 = true → w.filledByStrays = false

/-! ## What leaves the place alone, or puts it back -/

def IdeState.place (s : IdeState) : Place := ⟨s.pos, s.packlen, s.packetstatus⟩

section Placed

variable {d : Atapi} {s : IdeState}

lemma Placed.of_eq {p q : Place} (h : q = p) : Placed p q := h ▸ Placed.refl p

lemma placed_rewind (s : IdeState) : Placed s.place s.rewind.place := Placed.rewound s.place (Nat.zero_le 2)

lemma placed_packet {f : PacketView → PacketView} (hf : ∀ v, Placed v.place (f v).place) (s : IdeState) :
    Placed s.place (s.packet f).place :=
  hf ⟨s.regs.atastat, s.regs.error, s.regs.secount, s.regs.cylinder, s.pos, s.packlen, s.packetstatus, s.cdpos,
    s.cdlen, s.senseKey, s.asc, s.discchanged, s.buffer, s.idecallback, s.irq⟩

lemma placed_readSector (s : IdeState) : Placed s.place (readSector s).place := by
  unfold readSector
  split
  · exact Placed.of_eq rfl
  · exact placed_rewind s

lemma placed_writeSector (s : IdeState) : Placed s.place (writeSector s).place := by
  unfold writeSector
  split
  · exact Placed.of_eq rfl
  · dsimp only
    split
    · exact placed_rewind s
    · exact Placed.of_eq rfl

lemma placed_verifySector (s : IdeState) : Placed s.place (verifySector s).place := by
  unfold verifySector
  split
  · exact Placed.of_eq rfl
  · dsimp only
    split
    · exact Placed.of_eq rfl
    · exact placed_rewind s

lemma placed_formatSectors (s : IdeState) : Placed s.place (formatSectors s).place := by
  unfold formatSectors
  split <;> exact Placed.of_eq rfl

lemma placed_packetCallback (d : Atapi) (s : IdeState) : Placed s.place (packetCallback d.cd s).place := by
  unfold packetCallback
  split_ifs
  · exact placed_rewind s
  · exact placed_packet (placed_atapicommand d) (s.setStat busyStat)
  · exact Placed.of_eq rfl
  · exact Placed.phase s.place (n := 0xff) (by decide)
  · exact Placed.rewound s.place (le_refl 2)
  · exact placed_packet (placed_atapicommand d) s
  all_goals exact Placed.of_eq rfl

lemma placed_resetSharedState (s : IdeState) : Placed s.place (resetSharedState s).place :=
  Placed.start (by decide : (0 : Int) ≤ 0xffff)

/-- **What a command does** to the place. -/
lemma placed_callbackide (d : Atapi) (s : IdeState) : Placed s.place (callbackide d.cd s).place := by
  unfold callbackide
  split
  · exact placed_resetSharedState s
  cases Command.ofCode s.command with
  | none => exact Placed.of_eq rfl
  | some c =>
    cases c <;> dsimp only
    case read =>
      split
      · exact Placed.of_eq rfl
      · exact placed_readSector s
    case write =>
      split
      · exact Placed.of_eq rfl
      · exact placed_writeSector s
    case verify =>
      split
      · exact Placed.of_eq rfl
      · exact placed_verifySector s
    case format =>
      split
      · exact Placed.of_eq rfl
      · exact placed_formatSectors s
    case pidentify =>
      split
      · exact placed_rewind s
      · exact Placed.of_eq rfl
    case identify =>
      split_ifs
      · exact Placed.of_eq rfl
      · exact Placed.of_eq rfl
      · exact placed_rewind s
    case packetcmd => exact placed_packetCallback d s
    all_goals (try split_ifs) <;> exact Placed.of_eq rfl

lemma placed_ideRunCallback (d : Atapi) (s : IdeState) : Placed s.place (ideRunCallback d.cd s).place :=
  placed_callbackide d (s.callbackIn 0)

lemma placed_readOn (d : Atapi) (s : IdeState) : Placed s.place (readOn d.cd s).place := by
  unfold readOn
  dsimp only
  split
  · exact placed_ideRunCallback d (stepSector (s.setRegs _) |>.setStat busyStat)
  · exact Placed.of_eq rfl

lemma placed_writeDriveHead (s : IdeState) (val : UInt8) : Placed s.place (writeDriveHead s val).place := by
  unfold writeDriveHead
  dsimp only
  split
  · exact Placed.start (by decide : (0 : Int) ≤ 0xffff)
  · exact placed_rewind s

lemma placed_writeCommand (d : Atapi) (s : IdeState) (val : UInt8) :
    Placed s.place (writeCommand d.cd s val).place := by
  unfold writeCommand
  dsimp only
  split
  case h_4 => exact placed_rewind s
  case h_5 => exact (Placed.phase s.place (n := 0) (by decide)).trans (Placed.rewound _ (Nat.zero_le 2))
  case h_6 => exact placed_ideRunCallback d ((s.giveCommand val).setStat busyStat)
  all_goals exact Placed.of_eq rfl

/-- **An access that is not of the data port** leaves the place alone or puts it back. -/
lemma placed_step {a : Access} (hdata : isData a = false) : Placed s.place (step d.cd s a).place := by
  cases a with
  | write port val =>
    cases port with
    | driveHead => exact placed_writeDriveHead s val
    | command => exact placed_writeCommand d s val
    | control =>
      unfold step writeide
      dsimp only
      split <;> exact Placed.of_eq rfl
    | _ => exact Placed.of_eq rfl
  | read port => cases port <;> exact Placed.of_eq rfl
  | timeout =>
    unfold step timeout
    dsimp only
    split
    · exact Placed.refl _
    · exact placed_callbackide d (s.callbackIn 0)
  | _ => exact Bool.noConfusion hdata

end Placed

/-! ## What bounds it -/

/-- An answer is no longer than 65535 bytes, and while the data of a packet are awaited the place is below their
end. -/
structure Bounded (p : Place) : Prop where
  packlen : p.packlen ≤ 0xffff
  data : p.packetstatus = 4 → (p.pos : Int) < max 512 (p.packlen + 2)

structure Within (p q : Place) : Prop extends Bounded q where
  pos : q.pos = p.pos ∨ q.pos ≤ 65538

section Within

variable {d : Atapi} {s : IdeState} {p q : Place}

lemma Placed.within (h : Placed p q) (hp : Bounded p) : Within p q where
  packlen := h.packlen hp.packlen
  data hq := by
    rcases h.data hq with hle | ⟨hphase, hpos, hlen⟩
    · exact lt_max_of_lt_left (by omega)
    · rw [hpos, hlen]
      exact hp.data hphase
  pos := h.pos.imp_right fun hle => hle.trans (by decide)

lemma Placed.withinStart {n : UInt8} (h : Placed ⟨0, p.packlen, n⟩ q) (hp : Bounded p) : Within p q := by
  have hstart : Bounded ⟨0, p.packlen, n⟩ := ⟨hp.packlen, fun _ => lt_max_of_lt_left (show (0 : Int) < 512 by decide)⟩
  have hq := h.within hstart
  refine ⟨hq.toBounded, Or.inr ?_⟩
  rcases hq.pos with hpos | hpos
  · rw [hpos]
    exact Nat.zero_le _
  · exact hpos

lemma Bounded.advance {n : Nat} (hp : Bounded p) (hn : n ≤ 65538) (hdata : (n : Int) < max 512 (p.packlen + 2)) :
    Within p { p with pos := n } :=
  ⟨⟨hp.packlen, fun _ => hdata⟩, Or.inr hn⟩

lemma within_writeByte (hs : Bounded s.place) (val : UInt8) : Within s.place (writeByte d.cd s val).place := by
  unfold writeByte byteWritten
  split
  case isTrue =>
    have hback := placed_ideRunCallback d (((s.putByte s.pos val).advance 1).rewind.setStat busyStat)
    exact Placed.withinStart (n := s.packetstatus) hback hs
  case isFalse hlow =>
    have hlow : s.pos + 1 < 512 := not_le.mp hlow
    exact hs.advance (n := s.pos + 1) (by omega) (lt_max_of_lt_left (by omega))

lemma within_readByte (hs : Bounded s.place) : Within s.place (readByte d.cd s).2.place := by
  unfold readByte byteRead
  dsimp only
  split
  case isTrue =>
    unfold ideReadComplete
    dsimp only
    split
    · exact Placed.withinStart (n := s.packetstatus) (placed_readOn d ((s.advance 1).rewind.setStat readyStat)) hs
    · exact Placed.withinStart (n := s.packetstatus) (Placed.of_eq rfl) hs
  case isFalse hlow =>
    have hlow : s.pos + 1 < 512 := not_le.mp hlow
    exact hs.advance (n := s.pos + 1) (by omega) (lt_max_of_lt_left (by omega))

lemma within_readHalf (hs : Bounded s.place) : Within s.place (readidew d.cd s).2.2.place := by
  have hlen := hs.packlen
  unfold readidew wordRead
  dsimp only
  split
  case isTrue =>
    split
    · exact Placed.withinStart (n := s.packetstatus) (placed_packet (placed_callreadcd d) (s.advance 2).rewind) hs
    · split
      · have hback := placed_readOn d (((s.advance 2).setPacketstatus 0).rewind.setStat readyStat)
        exact Placed.withinStart (n := 0) hback hs
      · exact Placed.withinStart (n := 0) (Placed.of_eq rfl) hs
  case isFalse hon =>
    have hlow : s.pos + 2 < 512 ∨ ((s.pos + 2 : Nat) : Int) < s.packlen := by
      by_cases hpacket : s.command = Command.packetcmd.code
      · refine Or.inr (not_le.mp fun hend => hon (Or.inr ⟨hpacket, hend⟩))
      · exact Or.inl (not_le.mp fun hend => hon (Or.inl ⟨hend, hpacket⟩))
    have hlen : s.packlen ≤ 0xffff := hlen
    refine hs.advance (n := s.pos + 2) (by omega) ?_
    rcases hlow with hlow | hlow
    · exact lt_max_of_lt_left (by omega)
    · exact lt_max_of_lt_right (show ((s.pos + 2 : Nat) : Int) < s.packlen + 2 by omega)

lemma within_packetWord (hlen : s.packlen ≤ 0xffff) (hpos : s.pos ≤ 65538) : Within p (packetWord s).place := by
  unfold packetWord
  split
  case isTrue => exact ⟨⟨hlen, fun h => absurd (show (5 : UInt8) = 4 from h) (by decide)⟩, Or.inr hpos⟩
  case isFalse hend => exact ⟨⟨hlen, fun _ => lt_max_of_lt_right (not_le.mp hend)⟩, Or.inr hpos⟩

lemma within_wordWritten (hp : Bounded p) (hs : s.place = { p with pos := p.pos + 2 }) (hphase : s.packetstatus ≠ 5) :
    Within p (wordWritten d.cd s).place := by
  have hpos : s.pos = p.pos + 2 := congrArg Place.pos hs
  have hpacklen : s.packlen = p.packlen := congrArg Place.packlen hs
  have hstatus : s.packetstatus = p.packetstatus := congrArg Place.packetstatus hs
  have hlen := hp.packlen
  have hrewind : ∀ n, Placed ⟨0, p.packlen, n⟩ ⟨0, s.packlen, n⟩ := fun n => Placed.of_eq (by rw [hpacklen])
  unfold wordWritten
  rw [if_neg hphase]
  split_ifs with hdata
  · have hbelow := hp.data (hstatus ▸ hdata)
    exact within_packetWord (hpacklen ▸ hlen) (by omega)
  · exact (hrewind 1).withinStart hp
  · have hback := placed_ideRunCallback d (s.rewind.setStat busyStat)
    exact ((hrewind s.packetstatus).trans hback).withinStart hp
  · rw [hs]
    exact hp.advance (by omega) (lt_max_of_lt_left (by omega))

/-- **Only stray halfwords take the place further** than a packet's data go. -/
lemma within_step {a : Access} (hs : Bounded s.place) (hstray : isStray s a = false) :
    Within s.place (step d.cd s a).place := by
  cases a with
  | writeByte val => exact within_writeByte hs val
  | readByte => exact within_readByte hs
  | writeHalf val =>
    have hphase : s.packetstatus ≠ 5 := by simpa [isStray] using hstray
    exact within_wordWritten hs rfl hphase
  | readHalf => exact within_readHalf hs
  | _ => exact (placed_step (d := d) rfl).within hs

lemma step_stray (hphase : s.packetstatus = 5) (val : UInt16) :
    (step d.cd s (.writeHalf val)).place = { s.place with pos := s.pos + 2 } := by
  unfold step writeidew wordWritten
  dsimp only
  rw [if_neg, if_pos]
  · rfl
  · exact hphase
  · show ¬s.packetstatus = 4
    rw [hphase]
    decide

end Within

/-! ## Along a run -/

/-- The place is bounded, and past the end only by strays. -/
structure PortBounded (w : DataPort) : Prop where
  place : Bounded w.bus.place
  filledByStrays : w.filledByStrays = true ↔ bufferSize ≤ w.bus.pos

lemma portBounded_start (s : IdeState) : PortBounded (dataStart s) where
  place := ⟨show (0 : Int) ≤ 0xffff by decide, fun _ => lt_max_of_lt_left (show (0 : Int) < 512 by decide)⟩
  filledByStrays := by simp [dataStart, resetSharedState, applyPostResetSignature, IdeState.setSector, IdeState.setBuffer,
    IdeState.setDrive, bufferSize]

/-- **A step.** -/
lemma portBounded_step {w : DataPort} (hw : PortBounded w) (e : Atapi × Access) : PortBounded (dataStep w e) := by
  have hfull := hw.filledByStrays
  obtain ⟨d, a⟩ := e
  cases hstray : isStray w.bus a with
  | false =>
    have hin := within_step (d := d) hw.place hstray
    refine ⟨hin.toBounded, ?_⟩
    have hpos : (step d.cd w.bus a).pos = w.bus.pos ∨ (step d.cd w.bus a).pos ≤ 65538 := hin.pos
    simp only [dataStep, hstray, Bool.false_eq_true, ↓reduceIte, Bool.and_eq_true, decide_eq_true_eq, hfull,
      bufferSize]
    omega
  | true =>
    cases a with
    | writeHalf val =>
      have hphase : w.bus.packetstatus = 5 := by simpa [isStray] using hstray
      have hplace := step_stray (d := d) hphase val
      have hpos : (step d.cd w.bus (.writeHalf val)).pos = w.bus.pos + 2 := congrArg Place.pos hplace
      refine ⟨?_, ?_⟩
      · show Bounded (step d.cd w.bus (.writeHalf val)).place
        rw [hplace]
        exact ⟨hw.place.packlen, fun h => absurd (hphase.symm.trans h) (by decide)⟩
      · simp only [dataStep, hstray, ↓reduceIte, decide_eq_true_eq, hpos]
    | _ => exact Bool.noConfusion hstray

lemma inRange_iff {w : DataPort} (hw : PortBounded w) (e : Atapi × Access) : LeftWhenFull w e ↔ DataInRange w e := by
  have hfull : w.filledByStrays = false ↔ w.bus.pos < bufferSize := by
    rw [← not_le, ← hw.filledByStrays, Bool.not_eq_true]
  have hbyte : w.filledByStrays = false ↔ ∀ i ∈ [w.bus.pos], i < bufferSize := by
    rw [hfull, List.forall_mem_singleton]
  have hhalf : w.filledByStrays = false ↔ ∀ i ∈ [w.bus.pos / 2 * 2, w.bus.pos / 2 * 2 + 1], i < bufferSize := by
    rw [hfull, List.forall_mem_cons, List.forall_mem_singleton]
    unfold bufferSize
    omega
  obtain ⟨d, a⟩ := e
  cases a with
  | writeByte val | readByte => exact (forall_prop_of_true rfl).trans hbyte
  | writeHalf val | readHalf => exact (forall_prop_of_true rfl).trans hhalf
  | _ => exact iff_of_true (fun h => absurd h Bool.false_ne_true) (List.forall_mem_nil _)

/-- **The data port stays in its buffer** in just the runs that leave it alone while stray halfwords have filled the
buffer, whatever is done in them, and with whatever disc in the drive. -/
theorem data_in_range_iff (s : IdeState) (es : List (Atapi × Access)) :
    Along dataStep LeftWhenFull (dataStart s) es ↔ Along dataStep DataInRange (dataStart s) es :=
  along_iff_of_inv (fun _ e hw _ => portBounded_step hw e) (fun _ e hw => inRange_iff hw e) es (dataStart s)
    (portBounded_start s)

lemma place_strays (d : Atapi) (val : UInt16) (n : Nat) {w : DataPort} (hphase : w.bus.packetstatus = 5) :
    (exec dataStep w (List.replicate n (d, Access.writeHalf val))).bus.pos = w.bus.pos + 2 * n := by
  induction n generalizing w with
  | zero => rfl
  | succ n ih =>
    have hplace := step_stray (d := d) hphase val
    have hpos : (dataStep w (d, .writeHalf val)).bus.pos = w.bus.pos + 2 := congrArg Place.pos hplace
    have hstatus : (dataStep w (d, .writeHalf val)).bus.packetstatus = 5 :=
      (congrArg Place.packetstatus hplace).trans hphase
    rw [List.replicate_succ, exec_cons, ih hstatus, hpos]
    omega

def oneBlock : Atapi := isoAtapi (some (1, fun _ => 0)) false

def dataIdle : IdeState :=
  let drive : Drive := ⟨⟨0, 0, 0, 0, 0, 0, 0⟩, 63, 16, false, false, none⟩
  ⟨true, fun _ => drive, true, 0, 0, 0, 0, 0, 0, 0, 0, 0, false, false, fun _ => 0, 0, false⟩

def emptyModeSelect : List (Atapi × Access) :=
  let accesses : List Access := [.write .command Command.packetcmd.code, .timeout, .writeHalf 0x55] ++
    List.replicate 5 (.writeHalf 0) ++ [.timeout, .timeout, .writeHalf 0]
  accesses.map fun a => (oneBlock, a)

/-- **A mode select has no data, and 65536 halfwords follow it**: the last of them is behind the buffer. -/
theorem not_data_in_range :
    ¬∀ (s : IdeState) (es : List (Atapi × Access)), Along dataStep DataInRange (dataStart s) es := by
  intro h
  have hrun := h dataIdle (emptyModeSelect ++ (List.replicate 65534 (oneBlock, .writeHalf 0) ++
    [(oneBlock, .writeHalf 0)]))
  rw [along_append, along_append, along_cons] at hrun
  have hlast := hrun.2.2.1
  have hphase : (exec dataStep (dataStart dataIdle) emptyModeSelect).bus.packetstatus = 5 := by rfl
  have hpos : (exec dataStep (dataStart dataIdle) emptyModeSelect).bus.pos = 4 := by rfl
  have hend := place_strays oneBlock 0 65534 hphase
  rw [hpos] at hend
  have hin := hlast _ List.mem_cons_self
  rw [hend] at hin
  exact absurd hin (by decide)

end RpcEmu.Ide
