import RpcEmu.Ide.Controller
import RpcEmu.Lib.Runs
import Mathlib.Tactic.Ring

/-!
# Which sector a command is for

Each drive has a register file, and Drive/Head both selects a drive and carries a part of the address.

* **`Guest`** is the address as the guest has written it: for each drive the last value written to each
  register while the drive was selected, and the head and the mode of the last Drive/Head that names it.
  `Meant` says that a command is about to act on just that.
* **`Stale`** are the registers that something else has changed since.  Above all, a Drive/Head that selects
  the other drive puts the head into the register file of the drive that is left, and clears that one.
-/

namespace RpcEmu.Ide

/-! ## One sector after another -/

lemma join_lba (n : Nat) :
    (n / 2 ^ 24 % 16) <<< 24 ||| (n / 2 ^ 8 % 2 ^ 16) <<< 8 ||| n % 2 ^ 8 = n % 2 ^ 28 := by
  rw [Nat.or_assoc, ← Nat.shiftLeft_add_eq_or_of_lt (Nat.mod_lt _ (by decide)),
    ← Nat.shiftLeft_add_eq_or_of_lt, Nat.shiftLeft_eq, Nat.shiftLeft_eq]
  · omega
  · rw [Nat.shiftLeft_eq]
    omega

lemma lbaAddress_next_chs {d : Drive} (hchs : d.lbaCmd = false) : d.nextSector.lbaAddress = d.lbaAddress + 1 := by
  have hnext : ∀ x : Int, UInt32.ofInt (x + 1) = UInt32.ofInt x + 1 := fun x => UInt32.ofInt_add x 1
  unfold Drive.nextSector
  split_ifs with hlba htrack hhead
  · exact absurd hlba (by simp [hchs])
  · simp only [Drive.lbaAddress, hchs, Bool.false_eq_true, ↓reduceIte, ← hnext]
    congr 1
    have hhpc : (d.hpc : Int) = d.regs.head + 1 := by exact_mod_cast hhead.symm
    have hspt : (d.regs.sector : Int) = d.spt := by omega
    rw [hhpc, hspt]
    push_cast
    ring
  · simp only [Drive.lbaAddress, hchs, Bool.false_eq_true, ↓reduceIte, ← hnext]
    congr 1
    have hspt : (d.regs.sector : Int) = d.spt := by omega
    rw [hspt]
    push_cast
    ring
  · simp only [Drive.lbaAddress, hchs, Bool.false_eq_true, ↓reduceIte, ← hnext]
    congr 1
    push_cast
    ring

lemma lbaAddress_next_lba {d : Drive} (hlba : d.lbaCmd = true) :
    d.nextSector.lbaAddress.toNat = (d.lbaAddress + 1).toNat % 2 ^ 28 := by
  have hparts := join_lba (d.lbaAddress + 1).toNat
  unfold Drive.nextSector
  rw [if_pos hlba]
  generalize d.lbaAddress + 1 = lba at hparts ⊢
  have hhead : (lba >>> 24 &&& 0xf).toNat = lba.toNat / 2 ^ 24 % 16 := by
    rw [UInt32.toNat_and, UInt32.toNat_shiftRight]
    exact (Nat.and_two_pow_sub_one_eq_mod _ 4).trans (by rw [Nat.shiftRight_eq_div_pow]; rfl)
  have hcyl : (lba >>> 8 &&& 0xffff).toNat = lba.toNat / 2 ^ 8 % 2 ^ 16 := by
    rw [UInt32.toNat_and, UInt32.toNat_shiftRight]
    exact (Nat.and_two_pow_sub_one_eq_mod _ 16).trans (by rw [Nat.shiftRight_eq_div_pow]; rfl)
  have hsector : (lba &&& 0xff).toNat = lba.toNat % 2 ^ 8 := by
    rw [UInt32.toNat_and]
    exact Nat.and_two_pow_sub_one_eq_mod _ 8
  simp only [Drive.lbaAddress, hlba, ↓reduceIte, hhead, hcyl, hsector, hparts]
  rw [UInt32.toNat_ofNat']
  omega

def Drive.addressLimit (d : Drive) : Nat := if d.lbaCmd then 2 ^ 28 else 2 ^ 32

lemma lbaAddress_nextSector (d : Drive) :
    d.nextSector.lbaAddress.toNat = d.lbaAddress.toNat + 1 ↔ d.lbaAddress.toNat + 1 < d.addressLimit := by
  have hlt := d.lbaAddress.toNat_lt
  have hplus : (d.lbaAddress + 1).toNat = (d.lbaAddress.toNat + 1) % 2 ^ 32 := by
    rw [UInt32.toNat_add, UInt32.toNat_one]
  unfold Drive.addressLimit
  cases hlba : d.lbaCmd with
  | true =>
    rw [lbaAddress_next_lba hlba, hplus, if_pos rfl]
    omega
  | false =>
    rw [lbaAddress_next_chs hlba, hplus, if_neg (by decide)]
    omega

lemma skip512_nextSector (d : Drive) : d.nextSector.skip512 = d.skip512 := by
  unfold Drive.nextSector
  split_ifs <;> rfl

inductive Field where
  | secount | sector | cylLow | cylHigh | head
  deriving DecidableEq, Repr

structure Guest where
  drive : Bool
  written : Bool → Field → UInt8
  lba : Bool → Bool

def selects (val : UInt8) : Bool := val >>> 4 &&& 1 != 0

def put {α : Type} (f : Bool → Field → α) (d : Bool) (field : Field) (a : α) : Bool → Field → α :=
  fun d' field' => if d' = d ∧ field' = field then a else f d' field'

def Port.field : Port → Option Field
  | .secount => some .secount
  | .sector => some .sector
  | .cylLow => some .cylLow
  | .cylHigh => some .cylHigh
  | _ => none

def guestStep (g : Guest) : Access → Guest
  | .write .driveHead val =>
    { drive := selects val
      written := put g.written (selects val) .head (val &&& 0xf)
      lba := Function.update g.lba (selects val) (val &&& 0x40 != 0) }
  | .write port val =>
    match port.field with
    | some field => { g with written := put g.written g.drive field val }
    | none => g
  | _ => g

def Command.moves : Command → Bool
  | .read | .write | .verify | .readNativeMax | .srst | .packetcmd => true
  | _ => false

def moving (command : UInt8) : Bool := ((Command.ofCode command).map Command.moves).getD false

def allOf (f : Bool → Field → Bool) (d : Bool) : Bool → Field → Bool :=
  fun d' field => d' = d || f d' field

def staleStep (s : IdeState) (stale : Bool → Field → Bool) : Access → Bool → Field → Bool
  | .write .driveHead val =>
    if selects val = s.drive then put stale s.drive .head false
    else put (allOf stale s.drive) (selects val) .head true
  | .write .command val =>
    if s.reset then fun _ _ => true else if moving val then allOf stale s.drive else stale
  | .write port _ =>
    match port.field with
    | some field => put stale s.drive field false
    | none => stale
  | .read _ => stale
  | _ => if s.reset then fun _ _ => true else if moving s.command then allOf stale s.drive else stale

structure Watched where
  bus : IdeState
  guest : Guest
  stale : Bool → Field → Bool

def watch (cd : Cd) (w : Watched) (a : Access) : Watched :=
  ⟨step cd w.bus a, guestStep w.guest a, staleStep w.bus w.stale a⟩

def Command.transfers : Command → Bool
  | .read | .write | .verify | .format => true
  | _ => false

def isTransfer : Access → Bool
  | .write .command val => ((Command.ofCode val).map Command.transfers).getD false
  | _ => false

/-- **The selected drive's registers are what the guest wrote**, for the drive that it last named. -/
structure Meant (s : IdeState) (g : Guest) : Prop where
  drive : s.drive = g.drive
  secount : s.regs.secount = (g.written g.drive .secount).toNat
  sector : s.regs.sector = (g.written g.drive .sector).toNat
  cylinder : s.regs.cylinder = (g.written g.drive .cylLow).toNat + 256 * (g.written g.drive .cylHigh).toNat
  head : s.regs.head = (g.written g.drive .head).toNat
  lba : s.cur.lbaCmd = g.lba g.drive

/-- A transfer meets no stale register. -/
def Fresh (w : Watched) (a : Access) : Prop :=
  isTransfer a = true → ∀ field, w.stale w.bus.drive field = false

/-- The register has the value written. -/
def holds (r : IdeDriveRegs) (val : UInt8) : Field → Prop
  | .secount => r.secount = val.toNat
  | .sector => r.sector = val.toNat
  | .cylLow => r.cylinder % 256 = val.toNat ∧ r.cylinder < 65536
  | .cylHigh => r.cylinder / 256 = val.toNat ∧ r.cylinder < 65536
  | .head => r.head = val.toNat

/-! ## What leaves the registers alone -/

/-- The address and count are the same. -/
structure SameAddress (r r' : IdeDriveRegs) : Prop where
  secount : r'.secount = r.secount
  sector : r'.sector = r.sector
  cylinder : r'.cylinder = r.cylinder
  head : r'.head = r.head

/-- What a command leaves of the drive's registers. -/
structure Kept (moves : Prop) (s t : IdeState) : Prop where
  cdrom : t.cdromenabled = s.cdromenabled
  drive : t.drive = s.drive
  other : ∀ d, d ≠ s.drive → t.drives d = s.drives d
  lba : (t.drives s.drive).lbaCmd = (s.drives s.drive).lbaCmd
  address : ¬moves → SameAddress (s.drives s.drive).regs (t.drives s.drive).regs

section Kept

variable {cd : Cd} {s t u : IdeState} {moves : Prop} {r : IdeDriveRegs} {v : Drive} {atastat : UInt8}

lemma Kept.refl : Kept moves s s := ⟨rfl, rfl, fun _ _ => rfl, rfl, fun _ => ⟨rfl, rfl, rfl, rfl⟩⟩

lemma Kept.congr (h : Kept moves s t) (hcdrom : u.cdromenabled = t.cdromenabled) (hdrive : u.drive = t.drive)
    (hdrives : u.drives = t.drives) : Kept moves s u where
  cdrom := hcdrom.trans h.cdrom
  drive := hdrive.trans h.drive
  other d hd := by rw [hdrives, h.other d hd]
  lba := by rw [hdrives, h.lba]
  address hmoves := by
    rw [hdrives]
    exact h.address hmoves

lemma Kept.setDrive (h : Kept moves s t) (hlba : v.lbaCmd = t.cur.lbaCmd)
    (haddress : ¬moves → SameAddress t.regs v.regs) : Kept moves s (t.setDrive t.drive v) := by
  have hat : (t.setDrive t.drive v).drives s.drive = v := by
    rw [← h.drive]
    exact Function.update_self _ _ _
  have hcur : t.cur = t.drives s.drive := by rw [← h.drive]; rfl
  refine ⟨h.cdrom, h.drive, fun d hd => ?_, ?_, fun hmoves => ?_⟩
  · rw [← h.other d hd]
    exact Function.update_of_ne (h.drive ▸ hd) _ _
  · rw [hat, hlba, hcur, h.lba]
  · have hold := h.address hmoves
    have hnew := haddress hmoves
    rw [IdeState.regs, hcur] at hnew
    rw [hat]
    exact ⟨hnew.secount.trans hold.secount, hnew.sector.trans hold.sector, hnew.cylinder.trans hold.cylinder,
      hnew.head.trans hold.head⟩

lemma Kept.setRegs (h : Kept moves s t) (haddress : ¬moves → SameAddress t.regs r) : Kept moves s (t.setRegs r) :=
  h.setDrive rfl haddress

lemma Kept.setStat (h : Kept moves s t) : Kept moves s (t.setStat atastat) :=
  h.setRegs fun _ => ⟨rfl, rfl, rfl, rfl⟩

lemma Kept.irqRaise (h : Kept moves s t) : Kept moves s t.irqRaise := h.congr rfl rfl rfl

lemma Kept.irqLower (h : Kept moves s t) : Kept moves s t.irqLower := h.congr rfl rfl rfl

lemma Kept.rewind (h : Kept moves s t) : Kept moves s t.rewind := h.congr rfl rfl rfl

lemma Kept.setPacketstatus (h : Kept moves s t) (n : UInt8) : Kept moves s (t.setPacketstatus n) :=
  h.congr rfl rfl rfl

lemma Kept.callbackIn (h : Kept moves s t) (n : Nat) : Kept moves s (t.callbackIn n) := h.congr rfl rfl rfl

lemma Kept.setReset (h : Kept moves s t) : Kept moves s t.setReset := h.congr rfl rfl rfl

lemma Kept.setFdisk (h : Kept moves s t) (val : UInt8) : Kept moves s (t.setFdisk val) := h.congr rfl rfl rfl

lemma Kept.setSector (h : Kept moves s t) (data : Nat → UInt8) : Kept moves s (t.setSector data) :=
  h.congr rfl rfl rfl

lemma Kept.done (h : Kept moves s t) : Kept moves s (done t) := h.setStat.irqRaise

lemma Kept.abortCmd (h : Kept moves s t) : Kept moves s (abortCmd t) :=
  Kept.irqRaise (Kept.setRegs h fun _ => ⟨rfl, rfl, rfl, rfl⟩)

lemma Kept.mediaErrorIdnf (h : Kept moves s t) : Kept moves s (mediaErrorIdnf t) :=
  Kept.irqRaise (Kept.setRegs h fun _ => ⟨rfl, rfl, rfl, rfl⟩)

lemma lbaCmd_nextSector (d : Drive) : d.nextSector.lbaCmd = d.lbaCmd := by
  unfold Drive.nextSector
  split_ifs <;> rfl

lemma Kept.stepSector (h : Kept moves s t) (hmoves : moves) : Kept moves s (stepSector t) :=
  h.setDrive (lbaCmd_nextSector t.cur) fun hnot => absurd hmoves hnot

lemma Kept.packet (h : Kept moves s t) (hmoves : moves) (f : PacketView → PacketView) : Kept moves s (t.packet f) := by
  unfold IdeState.packet
  exact Kept.congr (Kept.setRegs h fun hnot => absurd hmoves hnot) rfl rfl rfl

lemma kept_readSector (h : Kept moves s t) : Kept moves s (readSector t) := by
  unfold readSector
  split
  · exact h.mediaErrorIdnf
  · exact Kept.irqRaise (Kept.setStat (Kept.rewind (h.setSector _)))

lemma kept_writeSector (h : Kept moves s t) (hmoves : moves) : Kept moves s (writeSector t) := by
  unfold writeSector
  split
  · exact h.mediaErrorIdnf
  · dsimp only
    split
    · refine Kept.stepSector (Kept.rewind (Kept.setStat (Kept.setRegs (Kept.irqRaise (Kept.setDrive h rfl ?_)) ?_))) hmoves
      all_goals exact fun hnot => absurd hmoves hnot
    · refine Kept.setStat (Kept.setRegs (Kept.irqRaise (Kept.setDrive h rfl ?_)) ?_)
      all_goals exact fun hnot => absurd hmoves hnot

lemma kept_verifySector (h : Kept moves s t) (hmoves : moves) : Kept moves s (verifySector t) := by
  unfold verifySector
  split
  · exact h.mediaErrorIdnf
  · dsimp only
    split
    · exact Kept.callbackIn (Kept.setStat (Kept.stepSector (Kept.setRegs (h.setSector _)
        fun hnot => absurd hmoves hnot) hmoves)) _
    · exact Kept.done (Kept.rewind (Kept.setRegs (h.setSector _) fun hnot => absurd hmoves hnot))

lemma kept_formatSectors (h : Kept moves s t) : Kept moves s (formatSectors t) := by
  unfold formatSectors
  split
  · exact h.mediaErrorIdnf
  · exact Kept.done (Kept.setDrive (h.setSector _) rfl fun _ => ⟨rfl, rfl, rfl, rfl⟩)

lemma kept_packetCallback (h : Kept moves s t) (hmoves : moves) : Kept moves s (packetCallback cd t) := by
  unfold packetCallback
  split_ifs
  · exact Kept.irqRaise (Kept.setRegs h.rewind fun hnot => absurd hmoves hnot)
  · exact Kept.packet (Kept.setStat h) hmoves _
  · exact h.done
  · exact Kept.setPacketstatus (Kept.irqRaise (Kept.setStat h)) _
  · exact Kept.congr (Kept.irqRaise (Kept.setStat h)) rfl rfl rfl
  · exact h.packet hmoves _
  · exact Kept.irqRaise (Kept.setStat h)
  · exact Kept.irqRaise (Kept.setStat h)
  · exact h

/-- **What a command does** to the registers, on a bus without a CD-ROM. -/
lemma kept_callbackide (hreset : s.reset = false) (hcd : s.cdromenabled = false) :
    Kept (moving s.command) s (callbackide cd s) := by
  have hcdrom : s.isCdrom = false := by simp [IdeState.isCdrom, hcd]
  have hmoves : ∀ c, Command.ofCode s.command = some c → moving s.command = c.moves := by
    intro c hc
    simp [moving, hc]
  unfold callbackide
  rw [if_neg (by simp [hreset])]
  cases hcommand : Command.ofCode s.command with
  | none => exact Kept.refl.abortCmd
  | some c =>
    rw [hmoves c hcommand]
    cases c <;> dsimp only <;> try simp only [hcdrom, Bool.false_eq_true, ↓reduceIte, false_or]
    case srst => exact Kept.irqRaise (Kept.setRegs Kept.refl fun hnot => absurd rfl hnot)
    case restore | seek => exact Kept.refl.done
    case setfeatures | standby | idleimmediate | checkpower | setmult =>
      split
      · exact Kept.refl.abortCmd
      · exact Kept.refl.done
    case readNativeMax =>
      split
      · exact Kept.refl.abortCmd
      · exact Kept.done (Kept.setRegs Kept.refl fun hnot => absurd rfl hnot)
    case read => exact kept_readSector Kept.refl
    case write => exact kept_writeSector Kept.refl rfl
    case verify => exact kept_verifySector Kept.refl rfl
    case format => exact kept_formatSectors Kept.refl
    case specify => exact Kept.done (Kept.setDrive Kept.refl rfl fun _ => ⟨rfl, rfl, rfl, rfl⟩)
    case pidentify | setidle1 => exact Kept.refl.abortCmd
    case identify =>
      split
      · exact Kept.refl.abortCmd
      · exact Kept.irqRaise (Kept.setStat (Kept.rewind (Kept.refl.setSector _)))
    case packetcmd => exact kept_packetCallback Kept.refl rfl

lemma Kept.trans (h : Kept moves s t) (h' : Kept moves t u) : Kept moves s u where
  cdrom := h'.cdrom.trans h.cdrom
  drive := h'.drive.trans h.drive
  other d hd := (h'.other d (h.drive ▸ hd)).trans (h.other d hd)
  lba := by
    have hlba := h'.lba
    rw [h.drive] at hlba
    exact hlba.trans h.lba
  address hmoves := by
    have hold := h.address hmoves
    have hnew := h'.address hmoves
    rw [h.drive] at hnew
    exact ⟨hnew.secount.trans hold.secount, hnew.sector.trans hold.sector, hnew.cylinder.trans hold.cylinder,
      hnew.head.trans hold.head⟩

/-- Which drive, and how it is addressed, are the same. -/
structure Lines (s t : IdeState) : Prop where
  cdrom : t.cdromenabled = s.cdromenabled
  drive : t.drive = s.drive
  lba : ∀ d, (t.drives d).lbaCmd = (s.drives d).lbaCmd

lemma Kept.lines (h : Kept moves s t) : Lines s t where
  cdrom := h.cdrom
  drive := h.drive
  lba d := by
    by_cases hd : d = s.drive
    · rw [hd, h.lba]
    · rw [h.other d hd]

lemma lines_resetSharedState : Lines s (resetSharedState s) where
  cdrom := rfl
  drive := rfl
  lba d := by cases d <;> simp [resetSharedState, applyPostResetSignature, IdeState.setDrive, IdeState.setSector,
    IdeState.setBuffer]

/-- What goes through a command unchanged. -/
def Through (command : UInt8) (s t : IdeState) : Prop :=
  (s.reset = false → Kept (moving command) s t) ∧ Lines s t

variable {command : UInt8}

lemma Kept.through (h : Kept (moving command) s t) : Through command s t := ⟨fun _ => h, h.lines⟩

lemma through_callback (hcd : s.cdromenabled = false) (h : Kept (moving command) s t) (hcommand : t.command = command)
    (hreset : t.reset = s.reset) : Through command s (callbackide cd t) := by
  have hkept : t.reset = false → Kept (moving command) s (callbackide cd t) := fun ht =>
    h.trans (hcommand ▸ kept_callbackide ht (h.cdrom.trans hcd))
  refine ⟨fun hs => hkept (hreset.trans hs), ?_⟩
  cases ht : t.reset with
  | false => exact (hkept ht).lines
  | true =>
    have hlines := h.lines
    have hshared := lines_resetSharedState (s := t)
    unfold callbackide
    rw [if_pos ht]
    exact ⟨hshared.cdrom.trans hlines.cdrom, hshared.drive.trans hlines.drive,
      fun d => (hshared.lba d).trans (hlines.lba d)⟩

lemma through_runCallback (hcd : s.cdromenabled = false) (h : Kept (moving command) s t) (hcommand : t.command = command)
    (hreset : t.reset = s.reset) : Through command s (ideRunCallback cd t) :=
  through_callback hcd (h.callbackIn 0) hcommand hreset

lemma through_readOn (hcd : s.cdromenabled = false) (h : Kept (moving command) s t) (hcommand : t.command = command)
    (hreset : t.reset = s.reset) (hread : t.command = Command.read.code) : Through command s (readOn cd t) := by
  have hmoves : moving command = true := by rw [← hcommand, hread]; rfl
  unfold readOn
  dsimp only
  split
  · refine through_runCallback hcd (Kept.setStat (Kept.stepSector (Kept.setRegs h ?_) hmoves)) hcommand hreset
    exact fun hnot => absurd hmoves hnot
  · exact (Kept.setRegs h fun hnot => absurd hmoves hnot).through

lemma through_byteWritten (hcd : s.cdromenabled = false) (h : Kept (moving command) s t) (hcommand : t.command = command)
    (hreset : t.reset = s.reset) : Through command s (byteWritten cd t) := by
  unfold byteWritten
  split
  · exact through_runCallback hcd (Kept.setStat h.rewind) hcommand hreset
  · exact h.through

lemma through_wordWritten (hcd : s.cdromenabled = false) (h : Kept (moving command) s t) (hcommand : t.command = command)
    (hreset : t.reset = s.reset) : Through command s (wordWritten cd t) := by
  unfold wordWritten
  split_ifs
  · unfold packetWord
    split
    · exact (Kept.irqLower (Kept.callbackIn (h.setPacketstatus _) _)).through
    · exact h.through
  · exact h.through
  · exact (Kept.callbackIn (Kept.setStat (Kept.rewind (h.setPacketstatus _))) _).through
  · exact through_runCallback hcd (Kept.setStat h.rewind) hcommand hreset
  · exact h.through

lemma through_byteRead (hcd : s.cdromenabled = false) (h : Kept (moving command) s t) (hcommand : t.command = command)
    (hreset : t.reset = s.reset) : Through command s (byteRead cd t) := by
  unfold byteRead ideReadComplete
  dsimp only
  split_ifs with hend hread
  · exact through_readOn hcd (Kept.setStat h.rewind) hcommand hreset hread
  · exact (Kept.setStat h.rewind).through
  · exact h.through

lemma through_wordRead (hcd : s.cdromenabled = false) (h : Kept (moving command) s t) (hcommand : t.command = command)
    (hreset : t.reset = s.reset) : Through command s (wordRead cd t) := by
  unfold wordRead
  dsimp only
  split_ifs with hend hpacket hread
  · have hmoves : moving command = true := by rw [← hcommand, hpacket.1]; rfl
    exact (Kept.packet h.rewind hmoves _).through
  · exact through_readOn hcd (Kept.setStat (Kept.rewind (h.setPacketstatus _))) hcommand hreset hread
  · exact (Kept.setStat (Kept.rewind (h.setPacketstatus _))).through
  · exact h.through

lemma through_timeout (hcd : s.cdromenabled = false) : Through s.command s (timeout cd s) := by
  unfold timeout
  split
  · exact Kept.refl.through
  · exact through_callback hcd (Kept.refl.callbackIn 0) rfl rfl

lemma through_writeCommand (hcd : s.cdromenabled = false) (val : UInt8) : Through val s (writeCommand cd s val) := by
  have hgiven : Kept (moving val) s (s.giveCommand val) :=
    Kept.setRegs (Kept.refl.congr rfl rfl rfl) fun _ => ⟨rfl, rfl, rfl, rfl⟩
  unfold writeCommand
  dsimp only
  split
  case h_7 => exact hgiven.abortCmd.through
  case h_6 => exact through_runCallback hcd (Kept.setStat hgiven) rfl rfl
  case h_5 => exact (Kept.callbackIn (Kept.rewind (Kept.setStat (hgiven.setPacketstatus _))) _).through
  case h_4 => exact (Kept.rewind (Kept.setStat hgiven)).through
  all_goals exact (Kept.callbackIn (Kept.setStat hgiven) _).through

end Kept

/-- Every register not stale holds what the guest wrote. -/
structure Tracks (w : Watched) : Prop where
  noCd : w.bus.cdromenabled = false
  drive : w.bus.drive = w.guest.drive
  lba : ∀ d, (w.bus.drives d).lbaCmd = w.guest.lba d
  regs : ∀ d field, w.stale d field = false → holds (w.bus.drives d).regs (w.guest.written d field) field

/-! ## The two halves of the cylinder -/

lemma high_byte (c : Nat) : c &&& 0xff00 = (c / 2 ^ 8 % 2 ^ 8) <<< 8 := by
  have hmask : 0xff00 = (2 ^ 8 - 1) <<< 8 := rfl
  rw [hmask]
  refine Nat.eq_of_testBit_eq fun i => ?_
  rw [Nat.testBit_and, Nat.testBit_shiftLeft, Nat.testBit_shiftLeft, Nat.testBit_two_pow_sub_one,
    Nat.testBit_mod_two_pow, Nat.testBit_div_two_pow]
  by_cases hi : 8 ≤ i
  · rw [Nat.sub_add_cancel hi]
    simp [hi, Bool.and_comm]
  · simp [hi]

lemma put_low (c : Nat) (v : UInt8) : c &&& 0xff00 ||| v.toNat = c / 256 % 256 * 256 + v.toNat := by
  rw [high_byte, ← Nat.shiftLeft_add_eq_or_of_lt (a := c / 2 ^ 8 % 2 ^ 8) v.toNat_lt, Nat.shiftLeft_eq]
  rfl

lemma put_high (c : Nat) (v : UInt8) : c &&& 0xff ||| v.toNat <<< 8 = c % 256 + v.toNat * 256 := by
  have hlow : c &&& 0xff = c % 2 ^ 8 := Nat.and_two_pow_sub_one_eq_mod c 8
  rw [Nat.or_comm, hlow, ← Nat.shiftLeft_add_eq_or_of_lt (Nat.mod_lt _ (by decide)), Nat.shiftLeft_eq]
  omega

/-! ## What is tracked -/

section Tracks

variable {cd : Cd} {w : Watched} {t : IdeState} {g : Guest} {stale : Bool → Field → Bool} {command : UInt8}

lemma SameAddress.holds {r r' : IdeDriveRegs} (h : SameAddress r r') {val : UInt8} {field : Field}
    (hr : holds r val field) : holds r' val field := by
  cases field
  case secount => exact h.secount.trans hr
  case sector => exact h.sector.trans hr
  case cylLow => exact ⟨h.cylinder ▸ hr.1, h.cylinder ▸ hr.2⟩
  case cylHigh => exact ⟨h.cylinder ▸ hr.1, h.cylinder ▸ hr.2⟩
  case head => exact h.head.trans hr

lemma Tracks.through (h : Tracks w) (ht : Through command w.bus t) :
    Tracks ⟨t, w.guest, if w.bus.reset then fun _ _ => true else
      if moving command then allOf w.stale w.bus.drive else w.stale⟩ where
  noCd := ht.2.cdrom.trans h.noCd
  drive := ht.2.drive.trans h.drive
  lba d := (ht.2.lba d).trans (h.lba d)
  regs d field hfresh := by
    dsimp only at hfresh ⊢
    cases hreset : w.bus.reset with
    | true => simp [hreset] at hfresh
    | false =>
      have hkept := ht.1 hreset
      simp only [hreset, Bool.false_eq_true, ↓reduceIte] at hfresh
      by_cases hd : d = w.bus.drive
      · subst hd
        cases hmoves : moving command with
        | true => simp [hmoves, allOf] at hfresh
        | false =>
          simp only [hmoves, Bool.false_eq_true, ↓reduceIte] at hfresh
          exact (hkept.address (by simp [hmoves])).holds (h.regs _ field hfresh)
      · rw [hkept.other d hd]
        refine h.regs d field ?_
        split at hfresh
        · simpa [allOf, hd] using hfresh
        · exact hfresh

lemma Tracks.kept (h : Tracks w) (ht : Kept False w.bus t) : Tracks ⟨t, w.guest, w.stale⟩ where
  noCd := ht.cdrom.trans h.noCd
  drive := ht.drive.trans h.drive
  lba d := (ht.lines.lba d).trans (h.lba d)
  regs d field hfresh := by
    by_cases hd : d = w.bus.drive
    · subst hd
      exact (ht.address id).holds (h.regs _ field hfresh)
    · exact (congrArg (fun v => holds v.regs (w.guest.written d field) field) (ht.other d hd)).mpr (h.regs d field hfresh)

lemma Tracks.field (h : Tracks w) {r : IdeDriveRegs} (field : Field) (val : UInt8) (hval : holds r val field)
    (hother : ∀ field' v, field' ≠ field → holds w.bus.regs v field' → holds r v field') :
    Tracks ⟨w.bus.setRegs r, { w.guest with written := put w.guest.written w.guest.drive field val },
      put w.stale w.bus.drive field false⟩ where
  noCd := h.noCd
  drive := h.drive
  lba d := by
    rw [← h.lba d]
    by_cases hd : d = w.bus.drive
    · subst hd
      simp [IdeState.setRegs, IdeState.setDrive, IdeState.cur]
    · simp [IdeState.setRegs, IdeState.setDrive, Function.update_of_ne hd]
  regs d field' hfresh := by
    by_cases hd : d = w.bus.drive
    · subst hd
      have hat : ((w.bus.setRegs r).drives w.bus.drive).regs = r := by
        simp [IdeState.setRegs, IdeState.setDrive]
      rw [hat]
      by_cases hfield : field' = field
      · subst hfield
        simpa [put, h.drive] using hval
      · simp only [put, hfield, and_false, ↓reduceIte] at hfresh ⊢
        exact hother field' _ hfield (h.regs _ field' hfresh)
    · have hat : (w.bus.setRegs r).drives d = w.bus.drives d := Function.update_of_ne hd _ _
      have hg : d ≠ w.guest.drive := h.drive ▸ hd
      rw [hat]
      simp only [put, hd, hg, false_and, ↓reduceIte] at hfresh ⊢
      exact h.regs d field' hfresh

lemma writeDriveHead_lines (s : IdeState) (val : UInt8) :
    (writeDriveHead s val).cdromenabled = s.cdromenabled ∧ (writeDriveHead s val).drive = selects val := by
  unfold writeDriveHead
  dsimp only
  split <;> exact ⟨rfl, rfl⟩

lemma writeDriveHead_same (s : IdeState) {val : UInt8} (hsame : selects val = s.drive) :
    (writeDriveHead s val).drives = Function.update s.drives s.drive
      { s.cur with
        regs := { s.regs with head := (val &&& 0xf).toNat, atastat := readyStat }, lbaCmd := val &&& 0x40 != 0 } := by
  have hselects : (val >>> 4 &&& 1 != 0) = selects val := rfl
  simp [writeDriveHead, hselects, hsame, IdeState.setStat, IdeState.setRegs, IdeState.setDrive, IdeState.rewind,
    IdeState.cur, IdeState.regs]

lemma writeDriveHead_other (s : IdeState) {val : UInt8} (hother : selects val ≠ s.drive) :
    (writeDriveHead s val).drives = Function.update
      (Function.update s.drives s.drive { s.cur with regs := ⟨readyStat, 0, 1, 1, 0, 0, 0⟩ }) (selects val)
      { s.drives (selects val) with
        regs := { (s.drives (selects val)).regs with atastat := readyStat }, lbaCmd := val &&& 0x40 != 0 } := by
  have hselects : (val >>> 4 &&& 1 != 0) = selects val := rfl
  simp [writeDriveHead, hselects, hother, IdeState.setStat, IdeState.setRegs, IdeState.setDrive, IdeState.rewind,
    IdeState.setSector, IdeState.setBuffer, IdeState.cur, IdeState.regs]

/-- **Drive/Head**: the head goes to the drive that is selected before, which is not the one it is for if that is
another. -/
lemma Tracks.driveHead (h : Tracks w) (val : UInt8) : Tracks (watch cd w (.write .driveHead val)) := by
  obtain ⟨hcdrom, hdrive⟩ := writeDriveHead_lines w.bus val
  have hregs := h.regs
  by_cases hsame : selects val = w.bus.drive
  · have hstale : staleStep w.bus w.stale (.write .driveHead val) = put w.stale w.bus.drive .head false := if_pos hsame
    have hdrives := writeDriveHead_same w.bus hsame
    refine ⟨hcdrom.trans h.noCd, hdrive, fun d => ?_, fun d field hfresh => ?_⟩
    · change ((writeDriveHead w.bus val).drives d).lbaCmd =
        Function.update w.guest.lba (selects val) (val &&& 0x40 != 0) d
      rw [hdrives, hsame]
      by_cases hd : d = w.bus.drive
      · subst hd
        rw [Function.update_self, Function.update_self]
      · rw [Function.update_of_ne hd, Function.update_of_ne hd, h.lba]
    · change staleStep w.bus w.stale (.write .driveHead val) d field = false at hfresh
      change holds ((writeDriveHead w.bus val).drives d).regs
        (put w.guest.written (selects val) .head (val &&& 0xf) d field) field
      rw [hstale] at hfresh
      rw [hdrives, hsame]
      by_cases hd : d = w.bus.drive
      · subst hd
        rw [Function.update_self]
        cases field
        case head => simp [holds, put]
        all_goals
          simp only [put, reduceCtorEq, and_false, ↓reduceIte] at hfresh ⊢
          exact hregs _ _ hfresh
      · rw [Function.update_of_ne hd]
        simp only [put, hd, false_and, ↓reduceIte] at hfresh ⊢
        exact hregs d field hfresh
  · have hstale : staleStep w.bus w.stale (.write .driveHead val) =
        put (allOf w.stale w.bus.drive) (selects val) .head true := if_neg hsame
    have hdrives := writeDriveHead_other w.bus hsame
    refine ⟨hcdrom.trans h.noCd, hdrive, fun d => ?_, fun d field hfresh => ?_⟩
    · change ((writeDriveHead w.bus val).drives d).lbaCmd =
        Function.update w.guest.lba (selects val) (val &&& 0x40 != 0) d
      rw [hdrives]
      by_cases hd : d = selects val
      · subst hd
        rw [Function.update_self, Function.update_self]
      · rw [Function.update_of_ne hd, Function.update_of_ne hd]
        by_cases hleft : d = w.bus.drive
        · subst hleft
          rw [Function.update_self]
          exact h.lba _
        · rw [Function.update_of_ne hleft, h.lba]
    · change staleStep w.bus w.stale (.write .driveHead val) d field = false at hfresh
      change holds ((writeDriveHead w.bus val).drives d).regs
        (put w.guest.written (selects val) .head (val &&& 0xf) d field) field
      rw [hstale] at hfresh
      rw [hdrives]
      by_cases hd : d = selects val
      · subst hd
        rw [Function.update_self]
        cases field
        case head => simp [put] at hfresh
        all_goals
          simp only [put, reduceCtorEq, and_false, ↓reduceIte, allOf, hsame, decide_false, Bool.false_or] at hfresh ⊢
          exact hregs _ _ hfresh
      · -- the drive that is left, of which everything is stale
        have hleft : d = w.bus.drive := by
          revert hd hsame
          cases d <;> cases selects val <;> cases w.bus.drive <;> simp
        subst hleft
        simp [put, allOf, hd] at hfresh

/-- **What is not stale is as the guest wrote it**, after any access. -/
lemma Tracks.watch (h : Tracks w) (a : Access) : Tracks (watch cd w a) := by
  cases a with
  | read port => 
    have hread : Kept False w.bus (readide w.bus port).2 := by
      cases port
      case command => exact Kept.refl.irqLower
      all_goals exact Kept.refl
    exact h.kept hread
  | writeByte val => exact h.through (through_byteWritten h.noCd (Kept.refl.congr rfl rfl rfl) rfl rfl)
  | writeHalf val => exact h.through (through_wordWritten h.noCd (Kept.refl.congr rfl rfl rfl) rfl rfl)
  | readByte => exact h.through (through_byteRead h.noCd (Kept.refl.congr rfl rfl rfl) rfl rfl)
  | readHalf => exact h.through (through_wordRead h.noCd (Kept.refl.congr rfl rfl rfl) rfl rfl)
  | timeout => exact h.through (through_timeout h.noCd)
  | write port val =>
    cases port with
    | driveHead => exact h.driveHead val
    | command => exact h.through (through_writeCommand h.noCd val)
    | feature => exact h.kept (Kept.setRegs Kept.refl fun _ => ⟨rfl, rfl, rfl, rfl⟩)
    | control =>
      refine h.kept ?_
      rw [step]
      unfold writeide
      dsimp only
      split
      · exact Kept.setFdisk (Kept.callbackIn (Kept.setStat Kept.refl.setReset) 500) val
      · exact Kept.refl.setFdisk val
    | secount =>
      refine h.field .secount val rfl fun field' v hne hold => ?_
      cases field'
      case secount => exact absurd rfl hne
      all_goals exact hold
    | sector =>
      refine h.field .sector val rfl fun field' v hne hold => ?_
      cases field'
      case sector => exact absurd rfl hne
      all_goals exact hold
    | cylLow =>
      have hval := val.toNat_lt
      have hput := put_low w.bus.regs.cylinder val
      have hregs : (step cd w.bus (.write .cylLow val)) = w.bus.setRegs { w.bus.regs with
          cylinder := w.bus.regs.cylinder / 256 % 256 * 256 + val.toNat } := by
        rw [← hput]
        rfl
      rw [Ide.watch, hregs]
      refine h.field .cylLow val ?_ fun field' v hne hold => ?_
      · simp only [holds]
        omega
      · cases field'
        case cylLow => exact absurd rfl hne
        case cylHigh =>
          simp only [holds] at hold ⊢
          omega
        all_goals exact hold
    | cylHigh =>
      have hval := val.toNat_lt
      have hput := put_high w.bus.regs.cylinder val
      have hregs : (step cd w.bus (.write .cylHigh val)) = w.bus.setRegs { w.bus.regs with
          cylinder := w.bus.regs.cylinder % 256 + val.toNat * 256 } := by
        rw [← hput]
        rfl
      rw [Ide.watch, hregs]
      refine h.field .cylHigh val ?_ fun field' v hne hold => ?_
      · simp only [holds]
        omega
      · cases field'
        case cylHigh => exact absurd rfl hne
        case cylLow =>
          simp only [holds] at hold ⊢
          omega
        all_goals exact hold

lemma Tracks.meant (h : Tracks w) (hfresh : ∀ field, w.stale w.bus.drive field = false) : Meant w.bus w.guest := by
  have hregs : ∀ field, holds w.bus.regs (w.guest.written w.guest.drive field) field := fun field => by
    have hfield := h.regs w.bus.drive field (hfresh field)
    rw [← h.drive]
    exact hfield
  refine ⟨h.drive, hregs .secount, hregs .sector, ?_, hregs .head, ?_⟩
  · obtain ⟨hlow, hlt⟩ := hregs .cylLow
    obtain ⟨hhigh, -⟩ := hregs .cylHigh
    omega
  · rw [← h.drive]
    exact h.lba _

end Tracks

def Watched.start (s : IdeState) : Watched :=
  ⟨s, ⟨s.drive, fun _ _ => 0, fun d => (s.drives d).lbaCmd⟩, fun _ _ => true⟩

def smallDrive : Drive where
  regs := ⟨readyStat, 1, 1, 1, 0, 0, 0⟩
  spt := 4
  hpc := 2
  skip512 := false
  lbaCmd := false
  hdfile := some ⟨fun _ => 0, 4096⟩

def twoDiscs : IdeState where
  cdromenabled := false
  drives _ := smallDrive
  drive := false
  command := 0
  fdisk := 0
  pos := 0
  packlen := 0
  packetstatus := 0
  cdpos := 0
  cdlen := 0
  senseKey := 0
  asc := 0
  discchanged := false
  reset := false
  buffer _ := 0
  idecallback := 0
  irq := false

def noCd : Cd := ⟨id, id⟩

end RpcEmu.Ide
