import Mathlib.Data.UInt
import Mathlib.Logic.Function.Basic
import Mathlib.Tactic.Common

/-!
# The IDE bus

`ide.c`: two drives with a register file each, one 512-byte sector buffer between them, and the command that
was written last.  `callbackide` does what the command is for, and is reached in four ways: at once when most
commands are written, when the 512th byte of a sector has been read or written at the data port, and when the
count in `idecallback` has run out.

A drive is a hard disc if it has an image and is not where the CD-ROM is.  What a packet command does to the
CD-ROM's state and to the registers of the selected drive is `Cd`; it has no way to an image.
-/

namespace RpcEmu.Ide

/-! ## State -/

/-- `IDEDriveRegs`. -/
structure IdeDriveRegs where
  atastat : UInt8
  error : UInt8
  secount : Int
  sector : Nat
  cylinder : Nat
  head : Nat
  cylprecomp : Nat
  deriving DecidableEq, Repr

structure Disc where
  bytes : Nat → UInt8
  filesize : Nat

structure Drive where
  regs : IdeDriveRegs
  spt : Int
  hpc : Nat
  skip512 : Bool
  lbaCmd : Bool
  hdfile : Option Disc

/-- `ide`, with `idecallback`, the interrupt line and `config.cdromenabled`; drive 1 is `true`. -/
structure IdeState where
  cdromenabled : Bool
  drives : Bool → Drive
  drive : Bool
  command : UInt8
  fdisk : UInt8
  pos : Nat
  packlen : Int
  packetstatus : UInt8
  cdpos : Int
  cdlen : Int
  senseKey : UInt8
  asc : UInt8
  discchanged : Bool
  reset : Bool
  buffer : Nat → UInt8
  idecallback : Nat
  irq : Bool

def errStat : UInt8 := 0x01
def drqStat : UInt8 := 0x08
def readyStat : UInt8 := 0x40
def busyStat : UInt8 := 0x80
def drqReadyStat : UInt8 := drqStat ||| readyStat
def abrtErr : UInt8 := 0x04
def idnfErr : UInt8 := 0x10

inductive Command where
  | srst | restore | read | write | verify | format | seek | specify | packetcmd | pidentify | setidle1 | identify
  | setmult | setfeatures | standby | idleimmediate | checkpower | readNativeMax
  deriving DecidableEq, Repr

/-- `WIN_...`. -/
def Command.code : Command → UInt8
  | srst => 0x08 | restore => 0x10 | read => 0x20 | write => 0x30 | verify => 0x40 | format => 0x50 | seek => 0x70
  | specify => 0x91 | packetcmd => 0xa0 | pidentify => 0xa1 | setidle1 => 0xe3 | identify => 0xec | setmult => 0xc6
  | setfeatures => 0xef | standby => 0xe0 | idleimmediate => 0xe1 | checkpower => 0xe5 | readNativeMax => 0xf8

def commands : List Command :=
  [.srst, .restore, .read, .write, .verify, .format, .seek, .specify, .packetcmd, .pidentify, .setidle1, .identify,
    .setmult, .setfeatures, .standby, .idleimmediate, .checkpower, .readNativeMax]

def Command.ofCode (code : UInt8) : Option Command :=
  commands.find? fun c => c.code = code

lemma ofCode_code (c : Command) : Command.ofCode c.code = some c := by cases c <;> rfl

lemma code_of_ofCode {code : UInt8} {c : Command} (h : Command.ofCode code = some c) : c.code = code := by
  have hfound := List.find?_some h
  exact of_decide_eq_true hfound

namespace IdeState

variable (s : IdeState)

def cur : Drive := s.drives s.drive

/-- `IDE_R`. -/
def regs : IdeDriveRegs := s.cur.regs

def setDrive (d : Bool) (v : Drive) : IdeState := { s with drives := Function.update s.drives d v }

def setRegs (r : IdeDriveRegs) : IdeState := s.setDrive s.drive { s.cur with regs := r }

/-- `ide_drive_is_hdd`. -/
def isHdd (d : Bool) : Bool := (s.drives d).hdfile.isSome && !(s.cdromenabled && d)

/-- `IDE_DRIVE_IS_CDROM`. -/
def isCdrom : Bool := s.cdromenabled && s.drive

/-- `IDE_DRIVE_PRESENT`. -/
def present : Bool := s.isHdd s.drive || s.isCdrom || s.cdromenabled

def setStat (atastat : UInt8) : IdeState := s.setRegs { s.regs with atastat }

def irqRaise : IdeState := { s with irq := true }

def irqLower : IdeState := { s with irq := false }

def rewind : IdeState := { s with pos := 0 }

/-- `pos` goes on. -/
def advance (n : Nat) : IdeState := { s with pos := s.pos + n }

/-- `idecallback`. -/
def callbackIn (n : Nat) : IdeState := { s with idecallback := n }

def setPacketstatus (packetstatus : UInt8) : IdeState := { s with packetstatus }

def setReset : IdeState := { s with reset := true }

def setFdisk (fdisk : UInt8) : IdeState := { s with fdisk }

def giveCommand (command : UInt8) : IdeState := { s with command }.setRegs { s.regs with error := 0 }

def setBuffer (buffer : Nat → UInt8) : IdeState := { s with buffer }

def putByte (i : Nat) (val : UInt8) : IdeState := s.setBuffer fun j => if j = i then val else s.buffer j

def setSector (data : Nat → UInt8) : IdeState := s.setBuffer fun i => if i < 512 then data i else s.buffer i

@[simp] lemma cur_setDrive (v : Drive) : (s.setDrive s.drive v).cur = v := Function.update_self _ _ _

@[simp] lemma cur_setRegs (r : IdeDriveRegs) : (s.setRegs r).cur = { s.cur with regs := r } := s.cur_setDrive _

@[simp] lemma regs_setRegs (r : IdeDriveRegs) : (s.setRegs r).regs = r := congrArg Drive.regs (s.cur_setRegs r)

@[simp] lemma regs_setStat (atastat : UInt8) : (s.setStat atastat).regs = { s.regs with atastat } := s.regs_setRegs _

end IdeState

/-- What `atapicommand` and `callreadcd` can see and change. -/
structure PacketView where
  atastat : UInt8
  error : UInt8
  secount : Int
  cylinder : Nat
  pos : Nat
  packlen : Int
  packetstatus : UInt8
  cdpos : Int
  cdlen : Int
  senseKey : UInt8
  asc : UInt8
  discchanged : Bool
  buffer : Nat → UInt8
  idecallback : Nat
  irq : Bool

/-- `atapicommand` and `callreadcd`, with the CD-ROM behind them. -/
structure Cd where
  atapicommand : PacketView → PacketView
  callreadcd : PacketView → PacketView

def IdeState.packet (s : IdeState) (f : PacketView → PacketView) : IdeState :=
  let r := s.regs
  let v := f ⟨r.atastat, r.error, r.secount, r.cylinder, s.pos, s.packlen, s.packetstatus, s.cdpos, s.cdlen,
    s.senseKey, s.asc, s.discchanged, s.buffer, s.idecallback, s.irq⟩
  { s.setRegs { r with atastat := v.atastat, error := v.error, secount := v.secount, cylinder := v.cylinder } with
    pos := v.pos, packlen := v.packlen, packetstatus := v.packetstatus, cdpos := v.cdpos, cdlen := v.cdlen
    senseKey := v.senseKey, asc := v.asc, discchanged := v.discchanged, buffer := v.buffer
    idecallback := v.idecallback, irq := v.irq }

/-! ## Addresses -/

namespace Drive

variable (d : Drive)

/-- `ide_get_lba_address`. -/
def lbaAddress : UInt32 :=
  if d.lbaCmd then UInt32.ofNat (d.regs.head <<< 24 ||| d.regs.cylinder <<< 8 ||| d.regs.sector)
  else UInt32.ofInt ((d.regs.cylinder * d.hpc + d.regs.head) * d.spt + (d.regs.sector - 1))

/-- `ide_get_sector`. -/
def sectorIndex : Nat := d.lbaAddress.toNat + d.skip512.toNat

/-- `ide_hd_logical_sectors`. -/
def logicalSectors : Nat :=
  match d.hdfile with
  | some disc => disc.filesize / 512 - d.skip512.toNat
  | none => 0

/-- `ide_next_sector`. -/
def nextSector : Drive :=
  if d.lbaCmd then
    let lba := d.lbaAddress + 1
    { d with regs := { d.regs with
        head := (lba >>> 24 &&& 0xf).toNat, cylinder := (lba >>> 8 &&& 0xffff).toNat, sector := (lba &&& 0xff).toNat } }
  else if d.regs.sector + 1 = d.spt + 1 then
    if d.regs.head + 1 = d.hpc then
      { d with regs := { d.regs with sector := 1, head := 0, cylinder := d.regs.cylinder + 1 } }
    else { d with regs := { d.regs with sector := 1, head := d.regs.head + 1 } }
  else { d with regs := { d.regs with sector := d.regs.sector + 1 } }

end Drive

def Disc.sector (disc : Disc) (n i : Nat) : UInt8 := disc.bytes (512 * n + i)

/-- `ide_sector_byte_offset_valid`, of a sector of the file. -/
def Disc.has (disc : Disc) (n : Nat) : Bool := 512 * n + 512 ≤ disc.filesize

/-- `fwrite` of a sector. -/
def Disc.put (disc : Disc) (n : Nat) (data : Nat → UInt8) : Disc :=
  { disc with bytes := fun i => if 512 * n ≤ i ∧ i < 512 * n + 512 then data (i - 512 * n) else disc.bytes i }

/-! ## What a command does -/

section Commands

variable (cd : Cd) (s : IdeState)

/-- `ide_apply_post_reset_signature`. -/
def applyPostResetSignature (s : IdeState) (d : Bool) : IdeState :=
  let r : IdeDriveRegs :=
    if s.isHdd d then ⟨readyStat, 0x01, 1, 1, 0, 0, 0⟩
    else if s.cdromenabled then ⟨readyStat, 0x01, 1, 1, 0xeb14, 0, 0⟩
    else ⟨0, 0, 0, 0, 0, 0, 0⟩
  s.setDrive d { s.drives d with regs := r }

/-- `ide_reset_shared_state`. -/
def resetSharedState : IdeState :=
  let s : IdeState := { s with
    command := 0, pos := 0, reset := false, packetstatus := 0, packlen := 0, cdlen := 0, cdpos := 0 }
  applyPostResetSignature (applyPostResetSignature (s.setSector fun _ => 0) false) true

/-- `ide_media_error_idnf`. -/
def mediaErrorIdnf : IdeState :=
  (s.setRegs { s.regs with atastat := readyStat ||| errStat, error := idnfErr }).irqRaise

def abortCmd : IdeState :=
  (s.setRegs { s.regs with atastat := readyStat ||| errStat, error := abrtErr }).irqRaise

def done : IdeState := (s.setStat readyStat).irqRaise

def stepSector : IdeState := s.setDrive s.drive s.cur.nextSector

def addressed : Option Disc :=
  if s.isHdd s.drive then s.cur.hdfile.filter fun disc => disc.has s.cur.sectorIndex else none

def fill (disc : Disc) : IdeState := s.setSector (disc.sector s.cur.sectorIndex)

/-- `callbackide` of `WIN_READ`. -/
def readSector : IdeState :=
  match addressed s with
  | none => mediaErrorIdnf s
  | some disc => ((fill s disc).rewind.setStat drqReadyStat).irqRaise

/-- `callbackide` of `WIN_WRITE`. -/
def writeSector : IdeState :=
  match addressed s with
  | none => mediaErrorIdnf s
  | some disc =>
    let s := s.setDrive s.drive { s.cur with hdfile := some (disc.put s.cur.sectorIndex s.buffer) }
    let s := s.irqRaise.setRegs { s.regs with secount := s.regs.secount - 1 }
    if s.regs.secount ≠ 0 then stepSector (s.setStat drqReadyStat).rewind else s.setStat readyStat

/-- `callbackide` of `WIN_VERIFY`. -/
def verifySector : IdeState :=
  match addressed s with
  | none => mediaErrorIdnf s
  | some disc =>
    let s := fill s disc
    let s := s.setRegs { s.regs with secount := s.regs.secount - 1 }
    if s.regs.secount ≠ 0 then ((stepSector s).setStat busyStat).callbackIn 200
    else done s.rewind

/-- `callbackide` of `WIN_FORMAT`: as many sectors of zeros as the count says, one after the other. -/
def formatSectors : IdeState :=
  match addressed s with
  | none => mediaErrorIdnf s
  | some disc =>
    let s := s.setSector fun _ => 0
    let disc := (List.range s.regs.secount.toNat).foldl
      (fun disc c => disc.put (s.cur.sectorIndex + c) fun _ => 0) disc
    done (s.setDrive s.drive { s.cur with hdfile := some disc })

/-- `callbackide` of `WIN_PACKETCMD`. -/
def packetCallback : IdeState :=
  if s.packetstatus = 0 then
    let error := (UInt8.ofInt s.regs.secount &&& 0xf8) ||| 1
    (s.rewind.setRegs { s.regs with error, atastat := drqReadyStat }).irqRaise
  else if s.packetstatus = 1 then (s.setStat busyStat).packet cd.atapicommand
  else if s.packetstatus = 2 then done s
  else if s.packetstatus = 3 then (s.setStat drqReadyStat).irqRaise.setPacketstatus 0xff
  else if s.packetstatus = 4 then (s.setStat drqReadyStat).irqRaise.rewind.advance 2
  else if s.packetstatus = 5 then s.packet cd.atapicommand
  else if s.packetstatus = 6 then (s.setStat drqReadyStat).irqRaise
  else if s.packetstatus = 0x80 then (s.setStat (readyStat ||| errStat)).irqRaise
  else s

/-- A word of the answer to `WIN_IDENTIFY`. -/
def identifyWord (d : Drive) (w : Nat) : UInt16 :=
  let sectors := min (d.logicalSectors % 2 ^ 32) 0x0fffffff
  let name := "RPCEmuHD".toList ++ List.replicate 32 ' '
  let version := "v1.0".toList ++ List.replicate 4 ' '
  let pair (cs : List Char) (i : Nat) : UInt16 :=
    match cs.drop (2 * i) with
    | a :: b :: _ => UInt16.ofNat (256 * a.toNat + b.toNat)
    | _ => 0
  if w = 0 then 0x0040 else if w = 1 then 65535
  else if w = 3 ∨ w = 54 then UInt16.ofNat d.hpc
  else if w = 6 ∨ w = 56 then UInt16.ofInt d.spt
  else if 10 ≤ w ∧ w < 20 then 0x2020
  else if 23 ≤ w ∧ w < 27 then pair version (w - 23)
  else if 27 ≤ w ∧ w < 47 then pair name (w - 27)
  else if w = 49 then 0x2f00 else if w = 50 then 0x4000 else if w = 53 then 0x0007
  else if w = 57 ∨ w = 60 ∨ w = 100 then UInt16.ofNat sectors
  else if w = 58 ∨ w = 61 ∨ w = 101 then UInt16.ofNat (sectors / 0x10000)
  else if w = 80 then 0x007e else if w = 81 then 0x0026
  else if w = 83 ∨ w = 84 ∨ w = 85 ∨ w = 86 then 0x7400 else if w = 88 then 0x0020
  else 0

/-- `ide_atapi_identify`'s words. -/
def atapiIdentifyWord (w : Nat) : UInt16 :=
  let name := "RPCEmuCD".toList ++ List.replicate 32 ' '
  let version := "v1.0".toList ++ List.replicate 4 ' '
  let pair (cs : List Char) (i : Nat) : UInt16 :=
    match cs.drop (2 * i) with
    | a :: b :: _ => UInt16.ofNat (256 * a.toNat + b.toNat)
    | _ => 0
  if w = 0 then 0x8580 else if 10 ≤ w ∧ w < 20 then 0x2020
  else if 23 ≤ w ∧ w < 27 then pair version (w - 23)
  else if 27 ≤ w ∧ w < 47 then pair name (w - 27)
  else if w = 49 then 0x200 else 0

def fillWords (word : Nat → UInt16) : IdeState :=
  s.setSector fun i => if i % 2 = 0 then (word (i / 2)).toUInt8 else (word (i / 2) >>> 8).toUInt8

/-- `callbackide`. -/
def callbackide : IdeState :=
  if s.reset then (resetSharedState s).irqRaise
  else
    match Command.ofCode s.command with
    | none => abortCmd s
    | some .srst =>
      (s.setRegs { s.regs with
        atastat := readyStat, error := 1, secount := 1, sector := 1
        cylinder := if s.isCdrom then 0xeb14 else 0 }).irqRaise
    | some .restore | some .seek => if s.isCdrom then abortCmd s else done s
    | some .setfeatures | some .standby | some .idleimmediate => if !s.present then abortCmd s else done s
    | some .checkpower | some .setmult =>
      if s.isCdrom ∨ !s.isHdd s.drive then abortCmd s else done s
    | some .readNativeMax =>
      if s.isCdrom ∨ !s.isHdd s.drive then abortCmd s
      else
        let maxLba := UInt32.ofNat (s.cur.logicalSectors % 2 ^ 32 - 1)
        done (s.setRegs { s.regs with
          sector := (maxLba &&& 0xff).toNat, cylinder := (maxLba >>> 8 &&& 0xffff).toNat
          head := (maxLba >>> 24 &&& 0x0f).toNat })
    | some .read => if s.isCdrom then abortCmd s else readSector s
    | some .write => if s.isCdrom then abortCmd s else writeSector s
    | some .verify => if s.isCdrom then abortCmd s else verifySector s
    | some .format => if s.isCdrom then abortCmd s else formatSectors s
    | some .specify =>
      if s.isCdrom then abortCmd s
      else done (s.setDrive s.drive { s.cur with spt := s.regs.secount, hpc := s.regs.head + 1 })
    | some .pidentify =>
      if s.isCdrom then
        ((fillWords s atapiIdentifyWord).rewind.setRegs
          { s.regs with error := 0, atastat := drqReadyStat }).irqRaise
      else abortCmd s
    | some .setidle1 => abortCmd s
    | some .identify =>
      if s.isCdrom then
        abortCmd (s.setRegs { s.regs with secount := 1, sector := 1, cylinder := 0xeb14, head := 0 })
      else if !s.isHdd s.drive then abortCmd s
      else ((fillWords s (identifyWord s.cur)).rewind.setStat drqReadyStat).irqRaise
    | some .packetcmd => packetCallback cd s

/-- `ide_run_callback`. -/
def ideRunCallback : IdeState := callbackide cd (s.callbackIn 0)

def readOn : IdeState :=
  let s := s.setRegs { s.regs with secount := s.regs.secount - 1 }
  if s.regs.secount ≠ 0 then ideRunCallback cd ((stepSector s).setStat busyStat) else s

/-- `ide_read_complete`. -/
def ideReadComplete : IdeState :=
  let s := s.rewind.setStat readyStat
  if s.command = Command.read.code then readOn cd s else s

/-- `ide_write_complete`. -/
def ideWriteComplete : IdeState := ideRunCallback cd (s.rewind.setStat busyStat)

end Commands

/-! ## The guest's accesses -/

section Accesses

variable (cd : Cd) (s : IdeState)

/-- The registers of the task file, by their addresses from `0x1f1`, and device control. -/
inductive Port where
  | feature | secount | sector | cylLow | cylHigh | driveHead | command | control
  deriving DecidableEq, Repr

/-- `writeide` at `0x1f6`, and what it clears when the other drive is selected: of the drive that is left. -/
def writeDriveHead (val : UInt8) : IdeState :=
  let d := val >>> 4 &&& 1 != 0
  let s := s.setRegs { s.regs with head := (val &&& 0xf).toNat }
  let s :=
    if d ≠ s.drive then
      ({ s.setRegs ⟨readyStat, 0, 1, 1, 0, 0, 0⟩ with
          idecallback := 0, reset := false, command := 0, packetstatus := 0, packlen := 0, cdlen := 0, cdpos := 0
          irq := false }.setSector fun _ => 0)
    else s
  let s : IdeState := { s with drive := d }
  let s := s.setDrive d { s.cur with lbaCmd := val &&& 0x40 != 0 }
  s.rewind.setStat readyStat

/-- `writeide` at `0x1f7`. -/
def writeCommand (val : UInt8) : IdeState :=
  let s := s.giveCommand val
  match Command.ofCode val with
  | some .srst | some .restore | some .seek => (s.setStat readyStat).callbackIn 100
  | some .write => (s.setStat drqReadyStat).rewind
  | some .packetcmd => ((s.setPacketstatus 0).setStat busyStat).rewind.callbackIn 30
  | some _ => ideRunCallback cd (s.setStat busyStat)
  | none => abortCmd s

/-- `writeide`, but for the data register. -/
def writeide (port : Port) (val : UInt8) : IdeState :=
  match port with
  | .feature => s.setRegs { s.regs with cylprecomp := val.toNat }
  | .secount => s.setRegs { s.regs with secount := val.toNat }
  | .sector => s.setRegs { s.regs with sector := val.toNat }
  | .cylLow => s.setRegs { s.regs with cylinder := (s.regs.cylinder &&& 0xff00) ||| val.toNat }
  | .cylHigh => s.setRegs { s.regs with cylinder := (s.regs.cylinder &&& 0xff) ||| val.toNat <<< 8 }
  | .driveHead => writeDriveHead s val
  | .command => writeCommand cd s val
  | .control =>
    (if s.fdisk &&& 4 ≠ 0 ∧ val &&& 4 = 0 then (s.setReset.setStat busyStat).callbackIn 500 else s).setFdisk val

def byteWritten : IdeState :=
  if s.pos ≥ 512 then ideWriteComplete cd s else s

/-- `writeide` at `0x1f0`. -/
def writeByte (val : UInt8) : IdeState := byteWritten cd ((s.putByte s.pos val).advance 1)

def packetWord : IdeState :=
  if (s.pos : Int) ≥ s.packlen + 2 then ((s.setPacketstatus 5).callbackIn 6).irqLower else s

def wordWritten : IdeState :=
  if s.packetstatus = 4 then packetWord s
  else if s.packetstatus = 5 then s
  else if s.command = Command.packetcmd.code ∧ s.pos ≥ 12 then
    ((s.setPacketstatus 1).rewind.setStat busyStat).callbackIn 60
  else if s.pos ≥ 512 then ideWriteComplete cd s
  else s

/-- `writeidew`. -/
def writeidew (val : UInt16) : IdeState :=
  wordWritten cd
    (((s.putByte (s.pos / 2 * 2) val.toUInt8).putByte (s.pos / 2 * 2 + 1) (val >>> 8).toUInt8).advance 2)

def byteRead : IdeState :=
  if s.pos ≥ 512 then ideReadComplete cd s else s

/-- `readide` at `0x1f0`. -/
def readByte : UInt8 × IdeState := (s.buffer s.pos, byteRead cd (s.advance 1))

/-- `readide`, but for the data register: only the status has an effect. -/
def readide (port : Port) : UInt8 × IdeState :=
  let shown (v : UInt8) : UInt8 := if s.present then v else 0
  match port with
  | .feature => (shown s.regs.error, s)
  | .secount => (shown (UInt8.ofInt s.regs.secount), s)
  | .sector => (shown (UInt8.ofNat s.regs.sector), s)
  | .cylLow => (shown (UInt8.ofNat (s.regs.cylinder &&& 0xff)), s)
  | .cylHigh => (shown (UInt8.ofNat (s.regs.cylinder >>> 8)), s)
  | .driveHead =>
    ((0xa0 ||| (if s.drive then 0x10 else 0) ||| (if s.cur.lbaCmd then 0x40 else 0) ||| UInt8.ofNat (s.regs.head &&& 0xf)), s)
  | .command => (shown s.regs.atastat, s.irqLower)
  | .control => (shown s.regs.atastat, s)

def wordRead : IdeState :=
  let packet := s.command = Command.packetcmd.code
  if (s.pos ≥ 512 ∧ ¬packet) ∨ (packet ∧ (s.pos : Int) ≥ s.packlen) then
    if packet ∧ s.packetstatus = 6 then s.rewind.packet cd.callreadcd
    else
      let s := (s.setPacketstatus 0).rewind.setStat readyStat
      if s.command = Command.read.code then readOn cd s else s
  else s

/-- `readidew`, a halfword lowest byte first. -/
def readidew : UInt8 × UInt8 × IdeState :=
  (s.buffer (s.pos / 2 * 2), s.buffer (s.pos / 2 * 2 + 1), wordRead cd (s.advance 2))

/-- The count in `idecallback` has run out. -/
def timeout : IdeState := if s.idecallback = 0 then s else callbackide cd (s.callbackIn 0)

end Accesses

/-! ## Accesses in any order -/

inductive Access where
  | write (port : Port) (val : UInt8)
  | read (port : Port)
  | writeByte (val : UInt8)
  | writeHalf (val : UInt16)
  | readByte
  | readHalf
  | timeout
  deriving DecidableEq, Repr

def step (cd : Cd) (s : IdeState) : Access → IdeState
  | .write port val => writeide cd s port val
  | .read port => (readide s port).2
  | .writeByte val => writeByte cd s val
  | .writeHalf val => writeidew cd s val
  | .readByte => (readByte cd s).2
  | .readHalf => (readidew cd s).2.2
  | .timeout => timeout cd s

end RpcEmu.Ide
