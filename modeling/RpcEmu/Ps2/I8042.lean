import RpcEmu.Lib.ByteMasks
import RpcEmu.Lib.Runs

/-!
# The keyboard controller of Phoebe

`i8042.c`: a keyboard and a mouse that each have a byte to give, or none, and the two interrupt bits that say so, of
which the keyboard's goes before.  `i8042_irq_update` works the bits out, and is called when a byte comes or goes;
but not when an interface is enabled or disabled.  And a read looks only for which device has a byte.

So the bits are right along a run just if no write turns an interface on or off while it has a byte, and no read
finds a byte of a keyboard that is disabled in front of the mouse's: `i8042_right_iff`.
-/

namespace RpcEmu.Ps2

open Runs ByteMasks

/-! ## The controller -/

def kbdCcmdReadMode : UInt8 := 0x20
def kbdCcmdWriteMode : UInt8 := 0x60
def kbdCcmdMouseDisable : UInt8 := 0xa7
def kbdCcmdMouseEnable : UInt8 := 0xa8
def kbdCcmdSelfTest : UInt8 := 0xaa
def kbdCcmdKbdDisable : UInt8 := 0xad
def kbdCcmdKbdEnable : UInt8 := 0xae
def kbdCcmdWriteMouse : UInt8 := 0xd4

def statOfull : UInt8 := 0x01
def statCmd : UInt8 := 0x08

def kbdModeKbdInt : UInt8 := 0x01
def kbdModeMouseInt : UInt8 := 0x02
def kbdModeDisableKbd : UInt8 := 0x10
def kbdModeDisableMouse : UInt8 := 0x20

def smiIrq2Mint : UInt8 := 0x01
def smiIrq2Kint : UInt8 := 0x02

/-- `i8042`, with the interrupt bits of `gp_regs[0x0f]`, the byte that each device has for a reader, and whether
`fatal` has ended it all. -/
structure I8042 where
  command : UInt8
  status : UInt8
  out : UInt8
  mode : UInt8
  irqKbd : Bool
  irqMouse : Bool
  smiIrq2 : UInt8
  kbdData : UInt8
  msData : UInt8
  stopped : Bool

variable (s : I8042)

/-- `superio_smi_setint2`. -/
def superioSmiSetint2 (i : UInt8) : I8042 := { s with smiIrq2 := s.smiIrq2 ||| i }

/-- `superio_smi_clrint2`. -/
def superioSmiClrint2 (i : UInt8) : I8042 := { s with smiIrq2 := s.smiIrq2 &&& ~~~i }

def I8042.kbdEnabled : Bool := s.mode &&& kbdModeDisableKbd == 0

def I8042.mouseEnabled : Bool := s.mode &&& kbdModeDisableMouse == 0

/-- `i8042_irq_update`. -/
def i8042IrqUpdate : I8042 :=
  if s.irqKbd && s.kbdEnabled then superioSmiClrint2 (superioSmiSetint2 s smiIrq2Kint) smiIrq2Mint
  else if s.irqMouse && s.mouseEnabled then superioSmiClrint2 (superioSmiSetint2 s smiIrq2Mint) smiIrq2Kint
  else superioSmiClrint2 (superioSmiClrint2 s smiIrq2Kint) smiIrq2Mint

/-- `i8042_keyboard_irq_raise`, with a byte. -/
def i8042KeyboardIrqRaise (data : UInt8) : I8042 := i8042IrqUpdate { s with kbdData := data, irqKbd := true }

/-- `i8042_keyboard_irq_lower`. -/
def i8042KeyboardIrqLower : I8042 := i8042IrqUpdate { s with irqKbd := false }

/-- `i8042_mouse_irq_raise`, with a byte. -/
def i8042MouseIrqRaise (data : UInt8) : I8042 := i8042IrqUpdate { s with msData := data, irqMouse := true }

/-- `i8042_mouse_irq_lower`. -/
def i8042MouseIrqLower : I8042 := i8042IrqUpdate { s with irqMouse := false }

/-- `i8042_data_read`; the device that is read lowers its interrupt. -/
def i8042DataRead : UInt8 × I8042 :=
  if s.irqKbd then (s.kbdData, { i8042KeyboardIrqLower s with irqKbd := false })
  else if s.irqMouse then (s.msData, { i8042MouseIrqLower s with msData := 0, irqMouse := false })
  else (s.out, { s with status := s.status &&& ~~~statOfull })

/-- `i8042_data_write`.  What the devices do with a byte is theirs. -/
def i8042DataWrite (val : UInt8) : I8042 :=
  if s.command = 0 ∨ s.command = kbdCcmdWriteMouse then { s with command := 0 }
  else if s.command = kbdCcmdWriteMode then { s with mode := val, command := 0 }
  else { s with stopped := true }

/-- `i8042_command_write`. -/
def i8042CommandWrite (val : UInt8) : I8042 :=
  if val = kbdCcmdReadMode then { s with out := s.mode, status := s.status ||| statOfull }
  else if val = kbdCcmdWriteMode then { s with command := val }
  else if val = kbdCcmdMouseDisable then { s with mode := s.mode ||| kbdModeDisableMouse }
  else if val = kbdCcmdMouseEnable then { s with mode := s.mode &&& ~~~kbdModeDisableMouse }
  else if val = kbdCcmdSelfTest then { s with out := 0x55, status := s.status ||| statOfull }
  else if val = kbdCcmdKbdDisable then { s with mode := s.mode ||| kbdModeDisableKbd }
  else if val = kbdCcmdKbdEnable then { s with mode := s.mode &&& ~~~kbdModeDisableKbd }
  else if val = kbdCcmdWriteMouse then { s with command := val }
  else { s with stopped := true }

/-- `i8042_reset`. -/
def i8042Reset : I8042 :=
  { s with
    status := statCmd, command := 0, mode := kbdModeKbdInt ||| kbdModeMouseInt, out := 0
    irqKbd := false, irqMouse := false }

/-- A reset of the machine; `superio_reset` clears the interrupt bits before. -/
def machineReset : I8042 := i8042Reset { s with smiIrq2 := 0 }

inductive I8042Event where
  | keyboardRaise (data : UInt8)
  | keyboardLower
  | mouseRaise (data : UInt8)
  | mouseLower
  | dataRead
  | dataWrite (val : UInt8)
  | commandWrite (val : UInt8)
  | reset
  deriving DecidableEq, Repr

def i8042Respond : I8042Event → I8042
  | .keyboardRaise data => i8042KeyboardIrqRaise s data
  | .keyboardLower => i8042KeyboardIrqLower s
  | .mouseRaise data => i8042MouseIrqRaise s data
  | .mouseLower => i8042MouseIrqLower s
  | .dataRead => (i8042DataRead s).2
  | .dataWrite val => i8042DataWrite s val
  | .commandWrite val => i8042CommandWrite s val
  | .reset => machineReset s

def i8042Step (e : I8042Event) : I8042 := if s.stopped then s else i8042Respond s e

def i8042Start : I8042 := machineReset ⟨0, 0, 0, 0, false, false, 0, 0, 0, false⟩

/-! ## What is to hold -/

def I8042.kint : Bool := s.smiIrq2 &&& smiIrq2Kint != 0

def I8042.mint : Bool := s.smiIrq2 &&& smiIrq2Mint != 0

def I8042.wantsKbd : Bool := s.irqKbd && s.kbdEnabled

def I8042.wantsMouse : Bool := !s.wantsKbd && (s.irqMouse && s.mouseEnabled)

/-- Each status bit says what its port wants. -/
structure BitsRight : Prop where
  kint : s.kint = s.wantsKbd
  mint : s.mint = s.wantsMouse

/-- A step leaves the bits right, so that an interface that is enabled with a byte raises its interrupt; and a read
that is made at an interrupt is of the device that raised it, and leaves the other's byte. -/
structure I8042Right (e : I8042Event) : Prop where
  bits : BitsRight (i8042Step s e)
  enablesKbd : s.kbdEnabled = false → (i8042Step s e).kbdEnabled = true → (i8042Step s e).irqKbd = true →
    (i8042Step s e).kint = true
  enablesMouse : s.mouseEnabled = false → (i8042Step s e).mouseEnabled = true → (i8042Step s e).irqMouse = true →
    (i8042Step s e).wantsKbd = false → (i8042Step s e).mint = true
  readsKbd : s.stopped = false → e = .dataRead → s.kint = true →
    (i8042DataRead s).1 = s.kbdData ∧ (i8042DataRead s).2.irqMouse = s.irqMouse
  readsMouse : s.stopped = false → e = .dataRead → s.mint = true →
    (i8042DataRead s).1 = s.msData ∧ (i8042DataRead s).2.irqKbd = s.irqKbd

/-! ## When it does -/

/-- The mode written leaves a port that interrupts as enabled as it was. -/
def I8042.KeepsEnabled (mode : UInt8) : Prop :=
  (s.irqKbd = true → (mode &&& kbdModeDisableKbd = 0 ↔ s.mode &&& kbdModeDisableKbd = 0)) ∧
    (s.irqMouse = true → s.wantsKbd = false →
      (mode &&& kbdModeDisableMouse = 0 ↔ s.mode &&& kbdModeDisableMouse = 0))

/-- A read at the mouse's interrupt finds no byte of the keyboard, and a write keeps to the mode as far as there are
bytes. -/
def I8042Allowed (e : I8042Event) : Prop :=
  s.stopped = false → match e with
    | .dataRead => s.wantsMouse = true → s.irqKbd = false
    | .dataWrite val => s.command = kbdCcmdWriteMode → s.KeepsEnabled val
    | .commandWrite val =>
      (val = kbdCcmdMouseDisable → s.KeepsEnabled (s.mode ||| kbdModeDisableMouse)) ∧
      (val = kbdCcmdMouseEnable → s.KeepsEnabled (s.mode &&& ~~~kbdModeDisableMouse)) ∧
      (val = kbdCcmdKbdDisable → s.KeepsEnabled (s.mode ||| kbdModeDisableKbd)) ∧
      (val = kbdCcmdKbdEnable → s.KeepsEnabled (s.mode &&& ~~~kbdModeDisableKbd))
    | _ => True

/-! ## The bits -/

variable {s} {s' : I8042}

lemma bitsRight_irqUpdate (s : I8042) : BitsRight (i8042IrqUpdate s) := by
  have hset : ∀ x i j : UInt8, ~~~j &&& i = i → (x ||| i) &&& ~~~j &&& i = i := by
    intro x i j h
    rw [and_not_and h, or_mask_and]
  unfold i8042IrqUpdate
  cases hkbd : s.irqKbd && s.kbdEnabled with
  | true =>
    have hkint : (s.smiIrq2 ||| smiIrq2Kint) &&& ~~~smiIrq2Mint &&& smiIrq2Kint = smiIrq2Kint :=
      hset _ _ _ (by decide)
    have hmint : (s.smiIrq2 ||| smiIrq2Kint) &&& ~~~smiIrq2Mint &&& smiIrq2Mint = 0 := and_not_and_self _ _
    rw [if_pos rfl]
    constructor
    · show ((s.smiIrq2 ||| smiIrq2Kint) &&& ~~~smiIrq2Mint &&& smiIrq2Kint != 0) = (s.irqKbd && s.kbdEnabled)
      rw [hkint, hkbd]
      rfl
    · show ((s.smiIrq2 ||| smiIrq2Kint) &&& ~~~smiIrq2Mint &&& smiIrq2Mint != 0) =
        (!(s.irqKbd && s.kbdEnabled) && (s.irqMouse && s.mouseEnabled))
      rw [hmint, hkbd]
      rfl
  | false =>
    rw [if_neg Bool.false_ne_true]
    cases hmouse : s.irqMouse && s.mouseEnabled with
    | true =>
      have hkint : (s.smiIrq2 ||| smiIrq2Mint) &&& ~~~smiIrq2Kint &&& smiIrq2Kint = 0 := and_not_and_self _ _
      have hmint : (s.smiIrq2 ||| smiIrq2Mint) &&& ~~~smiIrq2Kint &&& smiIrq2Mint = smiIrq2Mint :=
        hset _ _ _ (by decide)
      rw [if_pos rfl]
      constructor
      · show ((s.smiIrq2 ||| smiIrq2Mint) &&& ~~~smiIrq2Kint &&& smiIrq2Kint != 0) = (s.irqKbd && s.kbdEnabled)
        rw [hkint, hkbd]
        rfl
      · show ((s.smiIrq2 ||| smiIrq2Mint) &&& ~~~smiIrq2Kint &&& smiIrq2Mint != 0) =
          (!(s.irqKbd && s.kbdEnabled) && (s.irqMouse && s.mouseEnabled))
        rw [hmint, hkbd, hmouse]
        rfl
    | false =>
      have hkint : s.smiIrq2 &&& ~~~smiIrq2Kint &&& ~~~smiIrq2Mint &&& smiIrq2Kint = 0 := by
        rw [and_not_and (by decide), and_not_and_self]
      have hmint : s.smiIrq2 &&& ~~~smiIrq2Kint &&& ~~~smiIrq2Mint &&& smiIrq2Mint = 0 := and_not_and_self _ _
      rw [if_neg Bool.false_ne_true]
      constructor
      · show (s.smiIrq2 &&& ~~~smiIrq2Kint &&& ~~~smiIrq2Mint &&& smiIrq2Kint != 0) = (s.irqKbd && s.kbdEnabled)
        rw [hkint, hkbd]
        rfl
      · show (s.smiIrq2 &&& ~~~smiIrq2Kint &&& ~~~smiIrq2Mint &&& smiIrq2Mint != 0) =
          (!(s.irqKbd && s.kbdEnabled) && (s.irqMouse && s.mouseEnabled))
        rw [hmint, hkbd, hmouse]
        rfl

lemma BitsRight.congr (h : BitsRight s) (hsmi : s'.smiIrq2 = s.smiIrq2) (hmode : s'.mode = s.mode)
    (hkbd : s'.irqKbd = s.irqKbd) (hmouse : s'.irqMouse = s.irqMouse) : BitsRight s' := by
  have hwk : s'.wantsKbd = s.wantsKbd := by
    unfold I8042.wantsKbd I8042.kbdEnabled
    rw [hmode, hkbd]
  have hwm : s'.wantsMouse = s.wantsMouse := by
    unfold I8042.wantsMouse I8042.mouseEnabled
    rw [hwk, hmode, hmouse]
  constructor
  · rw [hwk, ← h.kint, I8042.kint, hsmi]
    rfl
  · rw [hwm, ← h.mint, I8042.mint, hsmi]
    rfl

lemma bitsRight_mode_iff (h : BitsRight s) (hsmi : s'.smiIrq2 = s.smiIrq2) (hkbd : s'.irqKbd = s.irqKbd)
    (hmouse : s'.irqMouse = s.irqMouse) : s.KeepsEnabled s'.mode ↔ BitsRight s' := by
  have hkint : s'.kint = s.wantsKbd := by
    rw [← h.kint, I8042.kint, hsmi]
    rfl
  have hmint : s'.mint = s.wantsMouse := by
    rw [← h.mint, I8042.mint, hsmi]
    rfl
  have hright : BitsRight s' ↔ s.wantsKbd = s'.wantsKbd ∧ s.wantsMouse = s'.wantsMouse := by
    rw [← hkint, ← hmint]
    exact ⟨fun h => ⟨h.kint, h.mint⟩, fun h => ⟨h.1, h.2⟩⟩
  have henabled : (s'.mode &&& kbdModeDisableKbd = 0 ↔ s.mode &&& kbdModeDisableKbd = 0) ↔
      s.kbdEnabled = s'.kbdEnabled := by
    unfold I8042.kbdEnabled
    rw [Bool.eq_iff_iff, beq_iff_eq, beq_iff_eq]
    exact ⟨Iff.symm, Iff.symm⟩
  have henabledMouse : (s'.mode &&& kbdModeDisableMouse = 0 ↔ s.mode &&& kbdModeDisableMouse = 0) ↔
      s.mouseEnabled = s'.mouseEnabled := by
    unfold I8042.mouseEnabled
    rw [Bool.eq_iff_iff, beq_iff_eq, beq_iff_eq]
    exact ⟨Iff.symm, Iff.symm⟩
  rw [hright, I8042.KeepsEnabled, henabled, henabledMouse]
  unfold I8042.wantsMouse I8042.wantsKbd
  rw [hkbd, hmouse]
  cases s.irqKbd <;> cases s.irqMouse <;> cases s.kbdEnabled <;> cases s.mouseEnabled <;> cases s'.kbdEnabled <;>
    cases s'.mouseEnabled <;> decide

/-! ## Reads -/

lemma irq_irqUpdate (s : I8042) :
    (i8042IrqUpdate s).irqKbd = s.irqKbd ∧ (i8042IrqUpdate s).irqMouse = s.irqMouse := by
  unfold i8042IrqUpdate
  split
  · exact ⟨rfl, rfl⟩
  · split <;> exact ⟨rfl, rfl⟩

lemma BitsRight.dataRead (h : BitsRight s) : BitsRight (i8042DataRead s).2 := by
  unfold i8042DataRead
  split
  · refine (bitsRight_irqUpdate { s with irqKbd := false }).congr rfl rfl ?_ rfl
    exact (irq_irqUpdate { s with irqKbd := false }).1.symm
  · split
    · refine (bitsRight_irqUpdate { s with irqMouse := false }).congr rfl rfl rfl ?_
      exact (irq_irqUpdate { s with irqMouse := false }).2.symm
    · exact h.congr rfl rfl rfl rfl

lemma readsMouse_iff (h : BitsRight s) :
    (s.wantsMouse = true → s.irqKbd = false) ↔
      (s.mint = true → (i8042DataRead s).1 = s.msData ∧ (i8042DataRead s).2.irqKbd = s.irqKbd) := by
  rw [h.mint]
  refine forall_congr' fun hwants => ?_
  have hmouse : s.irqMouse = true := by
    unfold I8042.wantsMouse at hwants
    rw [Bool.and_eq_true, Bool.and_eq_true] at hwants
    exact hwants.2.1
  unfold i8042DataRead
  cases hkbd : s.irqKbd with
  | true =>
    rw [if_pos rfl]
    exact iff_of_false nofun fun hread => nomatch hread.2
  | false =>
    rw [if_neg Bool.false_ne_true, if_pos hmouse]
    refine iff_of_true rfl ⟨rfl, ?_⟩
    show (i8042IrqUpdate { s with irqMouse := false }).irqKbd = false
    rw [(irq_irqUpdate _).1]
    exact hkbd

lemma readsKbd (h : BitsRight s) (hkint : s.kint = true) :
    (i8042DataRead s).1 = s.kbdData ∧ (i8042DataRead s).2.irqMouse = s.irqMouse := by
  have hkbd : s.irqKbd = true := by
    rw [h.kint] at hkint
    unfold I8042.wantsKbd at hkint
    rw [Bool.and_eq_true] at hkint
    exact hkint.1
  unfold i8042DataRead
  rw [if_pos hkbd]
  refine ⟨rfl, ?_⟩
  show (i8042IrqUpdate { s with irqKbd := false }).irqMouse = s.irqMouse
  rw [(irq_irqUpdate _).2]

/-! ## Steps -/

lemma right_iff (h : BitsRight s) (e : I8042Event) :
    I8042Right s e ↔ BitsRight (i8042Step s e) ∧ (s.stopped = false → e = .dataRead → s.mint = true →
      (i8042DataRead s).1 = s.msData ∧ (i8042DataRead s).2.irqKbd = s.irqKbd) := by
  constructor
  · intro hright
    exact ⟨hright.bits, hright.readsMouse⟩
  · rintro ⟨hbits, hreads⟩
    refine ⟨hbits, fun _ henabled hirq => ?_, fun _ henabled hirq hkbd => ?_, fun _ _ => readsKbd h, hreads⟩
    · rw [hbits.kint, I8042.wantsKbd, hirq, henabled]
      rfl
    · rw [hbits.mint, I8042.wantsMouse, hkbd, hirq, henabled]
      rfl

lemma bitsRight_dataWrite_iff (h : BitsRight s) (val : UInt8) :
    (s.command = kbdCcmdWriteMode → s.KeepsEnabled val) ↔ BitsRight (i8042DataWrite s val) := by
  unfold i8042DataWrite
  split
  next hother =>
    refine iff_of_true (fun hmode => ?_) (h.congr rfl rfl rfl rfl)
    rw [hmode] at hother
    exact absurd hother (by decide)
  · split
    next hmode =>
      rw [forall_prop_of_true hmode]
      exact @bitsRight_mode_iff s { s with mode := val, command := 0 } h rfl rfl rfl
    next hmode => exact iff_of_true (fun hsame => absurd hsame hmode) (h.congr rfl rfl rfl rfl)

lemma keepsEnabled_self (s : I8042) : s.KeepsEnabled s.mode := ⟨fun _ => Iff.rfl, fun _ _ => Iff.rfl⟩

lemma bitsRight_commandWrite_iff (h : BitsRight s) (val : UInt8) :
    ((val = kbdCcmdMouseDisable → s.KeepsEnabled (s.mode ||| kbdModeDisableMouse)) ∧
      (val = kbdCcmdMouseEnable → s.KeepsEnabled (s.mode &&& ~~~kbdModeDisableMouse)) ∧
      (val = kbdCcmdKbdDisable → s.KeepsEnabled (s.mode ||| kbdModeDisableKbd)) ∧
      (val = kbdCcmdKbdEnable → s.KeepsEnabled (s.mode &&& ~~~kbdModeDisableKbd))) ↔
    BitsRight (i8042CommandWrite s val) := by
  have hself := keepsEnabled_self s
  have hfields : (i8042CommandWrite s val).smiIrq2 = s.smiIrq2 ∧ (i8042CommandWrite s val).irqKbd = s.irqKbd ∧
      (i8042CommandWrite s val).irqMouse = s.irqMouse := by
    unfold i8042CommandWrite
    split_ifs <;> exact ⟨rfl, rfl, rfl⟩
  rw [← bitsRight_mode_iff h hfields.1 hfields.2.1 hfields.2.2]
  have hnot : ∀ {a b : UInt8} {P : Prop}, a ≠ b → a = b → P := fun hne heq => absurd heq hne
  unfold i8042CommandWrite
  split_ifs with hread hwrite hmouseOff hmouseOn htest hkbdOff hkbdOn hmouse
  · rw [hread]
    exact iff_of_true ⟨hnot (by decide), hnot (by decide), hnot (by decide), hnot (by decide)⟩ hself
  · rw [hwrite]
    exact iff_of_true ⟨hnot (by decide), hnot (by decide), hnot (by decide), hnot (by decide)⟩ hself
  · rw [hmouseOff]
    exact ⟨fun h => h.1 rfl, fun h => ⟨fun _ => h, hnot (by decide), hnot (by decide), hnot (by decide)⟩⟩
  · rw [hmouseOn]
    exact ⟨fun h => h.2.1 rfl, fun h => ⟨hnot (by decide), fun _ => h, hnot (by decide), hnot (by decide)⟩⟩
  · rw [htest]
    exact iff_of_true ⟨hnot (by decide), hnot (by decide), hnot (by decide), hnot (by decide)⟩ hself
  · rw [hkbdOff]
    exact ⟨fun h => h.2.2.1 rfl, fun h => ⟨hnot (by decide), hnot (by decide), fun _ => h, hnot (by decide)⟩⟩
  · rw [hkbdOn]
    exact ⟨fun h => h.2.2.2 rfl, fun h => ⟨hnot (by decide), hnot (by decide), hnot (by decide), fun _ => h⟩⟩
  · rw [hmouse]
    exact iff_of_true ⟨hnot (by decide), hnot (by decide), hnot (by decide), hnot (by decide)⟩ hself
  · exact iff_of_true ⟨hnot hmouseOff, hnot hmouseOn, hnot hkbdOff, hnot hkbdOn⟩ hself

lemma bitsRight_machineReset (s : I8042) : BitsRight (machineReset s) := by
  constructor
  · show ((0 : UInt8) &&& smiIrq2Kint != 0) = (false && true)
    decide
  · show ((0 : UInt8) &&& smiIrq2Mint != 0) = (!(false && true) && (false && true))
    decide

/-- **A step.** -/
lemma allowed_iff (h : BitsRight s) (e : I8042Event) : I8042Allowed s e ↔ I8042Right s e := by
  rw [right_iff h]
  cases hstopped : s.stopped with
  | true =>
    have hstep : i8042Step s e = s := if_pos hstopped
    rw [hstep]
    exact iff_of_true (fun hrun => nomatch hstopped.symm.trans hrun) ⟨h, nofun⟩
  | false =>
    have hstep : i8042Step s e = i8042Respond s e := if_neg (by rw [hstopped]; nofun)
    have hquiet : BitsRight (i8042Respond s e) → e ≠ .dataRead →
        BitsRight (i8042Respond s e) ∧ (false = false → e = .dataRead → s.mint = true →
          (i8042DataRead s).1 = s.msData ∧ (i8042DataRead s).2.irqKbd = s.irqKbd) :=
      fun hbits hne => ⟨hbits, fun _ heq => absurd heq hne⟩
    rw [hstep]
    cases e with
    | keyboardRaise data => exact iff_of_true (fun _ => trivial) (hquiet (bitsRight_irqUpdate _) nofun)
    | keyboardLower =>
      exact iff_of_true (fun _ => trivial) (hquiet (bitsRight_irqUpdate { s with irqKbd := false }) nofun)
    | mouseRaise data => exact iff_of_true (fun _ => trivial) (hquiet (bitsRight_irqUpdate _) nofun)
    | mouseLower =>
      exact iff_of_true (fun _ => trivial) (hquiet (bitsRight_irqUpdate { s with irqMouse := false }) nofun)
    | reset => exact iff_of_true (fun _ => trivial) (hquiet (bitsRight_machineReset s) nofun)
    | dataRead =>
      refine Iff.trans (forall_prop_of_true hstopped) ((readsMouse_iff h).trans ?_)
      rw [forall_prop_of_true rfl, forall_prop_of_true rfl]
      exact (and_iff_right h.dataRead).symm
    | dataWrite val =>
      refine Iff.trans (forall_prop_of_true hstopped) ((bitsRight_dataWrite_iff h val).trans ?_)
      exact ⟨fun hbits => hquiet hbits nofun, And.left⟩
    | commandWrite val =>
      refine Iff.trans (forall_prop_of_true hstopped) ((bitsRight_commandWrite_iff h val).trans ?_)
      exact ⟨fun hbits => hquiet hbits nofun, And.left⟩

/-- **A run keeps the bits right and reads the device that asked just if its steps are allowed.** -/
theorem i8042_right_iff (es : List I8042Event) :
    Along i8042Step I8042Allowed i8042Start es ↔ Along i8042Step I8042Right i8042Start es :=
  along_iff_of_inv (I := BitsRight) (fun _ e h hallowed => ((allowed_iff h e).mp hallowed).bits)
    (fun _ e h => allowed_iff h e) es _ (bitsRight_machineReset _)

theorem not_i8042_right : ¬ ∀ es, Along i8042Step I8042Right i8042Start es := by
  intro h
  have hrun := h [.keyboardRaise 0x1c, .commandWrite 0xad]
  rw [along_cons, along_cons] at hrun
  exact absurd hrun.2.1.bits.kint (by decide)

end RpcEmu.Ps2
