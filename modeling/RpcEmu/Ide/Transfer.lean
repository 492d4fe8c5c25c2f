import RpcEmu.Ide.TaskFile
import Mathlib.Data.List.GetD

/-!
# The sectors of a transfer

A READ or a WRITE moves its sectors through the buffer, one byte or halfword at a time, and goes from one sector
to the next as a side effect of the access that ends a sector.

**`Asked`** and **`Counted`** are what a command needs to move exactly what it is asked to.  A count of zero
stands for 256, but is counted down as zero: it is right only where the image ends first.
-/

namespace RpcEmu.Ide

/-! ## What is asked for -/

def gets (cd : Cd) (s : IdeState) : Access → List UInt8
  | .readByte => [(readByte cd s).1]
  | .readHalf => [(readidew cd s).1, (readidew cd s).2.1]
  | _ => []

def sends : Access → List UInt8
  | .writeByte val => [val]
  | .writeHalf val => [val.toUInt8, (val >>> 8).toUInt8]
  | _ => []

def received (cd : Cd) (s : IdeState) (as : List Access) : List UInt8 :=
  (Runs.steps (step cd) s as).flatMap fun v => gets cd v.1 v.2

def sent (as : List Access) : List UInt8 := as.flatMap sends

def wanted (s : IdeState) : Nat := if s.regs.secount = 0 then 256 else s.regs.secount.toNat

def existing (s : IdeState) (disc : Disc) : Nat :=
  min (wanted s) (disc.filesize / 512 - s.cur.sectorIndex)

/-- The command finds a disc and no reset. -/
structure Asked (s : IdeState) (disc : Disc) : Prop where
  reset : s.reset = false
  noCd : s.isCdrom = false
  image : s.cur.hdfile = some disc

/-- A count the drive can go through, within its address limit. -/
structure Counted (s : IdeState) (disc : Disc) : Prop where
  nonneg : 0 ≤ s.regs.secount
  count : s.regs.secount ≠ 0 ∨ existing s disc < 256
  limit : s.cur.lbaAddress.toNat + min (existing s disc) (wanted s - 1) < s.cur.addressLimit

/-- What a guest does who reads the data. -/
def Reads (s : IdeState) : Access → Prop
  | .readByte | .read _ | .timeout => True
  | .readHalf => s.pos % 2 = 0
  | _ => False

/-- What a guest does who writes the data. -/
def Writes (s : IdeState) : Access → Prop
  | .writeByte _ | .read _ | .timeout => True
  | .writeHalf _ => s.pos % 2 = 0
  | _ => False

def Disc.overwrite (disc : Disc) (n k : Nat) (data : List UInt8) : Disc :=
  { disc with
    bytes := fun i => if 512 * n ≤ i ∧ i < 512 * (n + k) then data.getD (i - 512 * n) 0 else disc.bytes i }

/-- Where a READ from the state `s₀` is when the guest has got these bytes. -/
structure ReadTo (s₀ : IdeState) (disc : Disc) (data : List UInt8) (s : IdeState) : Prop where
  images : ∀ d, (s.drives d).hdfile = (s₀.drives d).hdfile
  bytes : data = (List.range data.length).map fun i => disc.bytes (512 * s₀.cur.sectorIndex + i)
  going : data.length < 512 * existing s₀ disc → s.regs.atastat = drqReadyStat
  finished : data.length = 512 * existing s₀ disc → existing s₀ disc = wanted s₀ → s.regs.atastat = readyStat
  offEnd : data.length = 512 * existing s₀ disc → existing s₀ disc < wanted s₀ →
    s.regs.atastat = readyStat ||| errStat ∧ s.regs.error = idnfErr

/-- Where a WRITE from the state `s₀` is when the guest has sent these bytes. -/
structure WrittenTo (s₀ : IdeState) (disc : Disc) (data : List UInt8) (s : IdeState) : Prop where
  image : (s.drives s₀.drive).hdfile =
    some (disc.overwrite s₀.cur.sectorIndex (min (data.length / 512) (existing s₀ disc)) data)
  other : ∀ d, d ≠ s₀.drive → (s.drives d).hdfile = (s₀.drives d).hdfile
  going : data.length < 512 * min (wanted s₀) (existing s₀ disc + 1) → s.regs.atastat = drqReadyStat
  finished : data.length = 512 * existing s₀ disc → existing s₀ disc = wanted s₀ → s.regs.atastat = readyStat
  offEnd : data.length = 512 * (existing s₀ disc + 1) → existing s₀ disc < wanted s₀ →
    s.regs.atastat = readyStat ||| errStat ∧ s.regs.error = idnfErr

/-! ## At one sector of a transfer -/

/-- The registers and images at the `k`-th sector, of which `n` are done. -/
structure At (s₀ : IdeState) (c : Command) (image : Disc) (k n : Nat) (s : IdeState) : Prop where
  reset : s.reset = false
  command : s.command = c.code
  timer : s.idecallback = 0
  cdrom : s.cdromenabled = s₀.cdromenabled
  drive : s.drive = s₀.drive
  other : ∀ d, d ≠ s₀.drive → (s.drives d).hdfile = (s₀.drives d).hdfile
  image : s.cur.hdfile = some image
  lba : s.cur.lbaCmd = s₀.cur.lbaCmd
  skip : s.cur.skip512 = s₀.cur.skip512
  count : s.regs.secount = s₀.regs.secount - n
  address : s.cur.lbaAddress.toNat = s₀.cur.lbaAddress.toNat + k

/-- How a transfer ends. -/
structure Over (s₀ : IdeState) (disc image : Disc) (s : IdeState) : Prop where
  timer : s.idecallback = 0
  image : (s.drives s₀.drive).hdfile = some image
  other : ∀ d, d ≠ s₀.drive → (s.drives d).hdfile = (s₀.drives d).hdfile
  finished : existing s₀ disc = wanted s₀ → s.regs.atastat = readyStat
  offEnd : existing s₀ disc < wanted s₀ → s.regs.atastat = readyStat ||| errStat ∧ s.regs.error = idnfErr

section At

variable {cd : Cd} {s₀ s t : IdeState} {c : Command} {disc image image' : Disc} {k k' n n' : Nat} {v : Drive}

lemma At.index (h : At s₀ c image k n s) : s.cur.sectorIndex = s₀.cur.sectorIndex + k := by
  rw [Drive.sectorIndex, Drive.sectorIndex, h.address, h.skip]
  omega

lemma At.hdfile (h : At s₀ c image k n s) : (s.drives s₀.drive).hdfile = some image := by
  rw [← h.drive]
  exact h.image

lemma At.congr (h : At s₀ c image k n s) (hdrives : t.drives = s.drives) (hdrive : t.drive = s.drive)
    (hcdrom : t.cdromenabled = s.cdromenabled) (hreset : t.reset = s.reset) (hcommand : t.command = s.command)
    (htimer : t.idecallback = s.idecallback) : At s₀ c image k n t := by
  have hcur : t.cur = s.cur := by rw [IdeState.cur, IdeState.cur, hdrives, hdrive]
  have hregs : t.regs = s.regs := congrArg Drive.regs hcur
  refine ⟨hreset.trans h.reset, hcommand.trans h.command, htimer.trans h.timer, hcdrom.trans h.cdrom,
    hdrive.trans h.drive, ?_, ?_, ?_, ?_, ?_, ?_⟩
  · rw [hdrives]
    exact h.other
  · rw [hcur, h.image]
  · rw [hcur, h.lba]
  · rw [hcur, h.skip]
  · rw [hregs, h.count]
  · rw [hcur, h.address]

lemma At.setDrive (h : At s₀ c image k n s) (himage : v.hdfile = some image') (hlba : v.lbaCmd = s.cur.lbaCmd)
    (hskip : v.skip512 = s.cur.skip512) (hcount : v.regs.secount = s₀.regs.secount - n')
    (haddress : v.lbaAddress.toNat = s₀.cur.lbaAddress.toNat + k') :
    At s₀ c image' k' n' (s.setDrive s.drive v) := by
  have hcur := s.cur_setDrive v
  have hregs : (s.setDrive s.drive v).regs = v.regs := congrArg Drive.regs hcur
  refine ⟨h.reset, h.command, h.timer, h.cdrom, h.drive, fun d hd => ?_, ?_, ?_, ?_, ?_, ?_⟩
  · rw [← h.other d hd]
    exact congrArg Drive.hdfile (Function.update_of_ne (h.drive ▸ hd) _ _)
  · rw [hcur, himage]
  · rw [hcur, hlba, h.lba]
  · rw [hcur, hskip, h.skip]
  · rw [hregs, hcount]
  · rw [hcur, haddress]

lemma At.setRegs (h : At s₀ c image k n s) (atastat error : UInt8) :
    At s₀ c image k n (s.setRegs { s.regs with atastat, error }) :=
  h.setDrive h.image rfl rfl h.count h.address

lemma At.setStat (h : At s₀ c image k n s) (atastat : UInt8) : At s₀ c image k n (s.setStat atastat) :=
  h.setRegs atastat s.regs.error

lemma At.rewind (h : At s₀ c image k n s) : At s₀ c image k n s.rewind := h.congr rfl rfl rfl rfl rfl rfl

lemma At.irqRaise (h : At s₀ c image k n s) : At s₀ c image k n s.irqRaise := h.congr rfl rfl rfl rfl rfl rfl

lemma At.callbackIn (h : At s₀ c image k n s) : At s₀ c image k n (s.callbackIn 0) :=
  h.congr rfl rfl rfl rfl rfl h.timer.symm

lemma At.counted (h : At s₀ c image k n s) :
    At s₀ c image k (n + 1) (s.setRegs { s.regs with secount := s.regs.secount - 1 }) := by
  refine h.setDrive h.image rfl rfl ?_ h.address
  dsimp only
  rw [h.count]
  omega

lemma At.next (h : At s₀ c image k n s) (hlimit : s₀.cur.lbaAddress.toNat + k + 1 < s₀.cur.addressLimit) :
    At s₀ c image (k + 1) n (stepSector s) := by
  have hlimit' : s.cur.addressLimit = s₀.cur.addressLimit := by rw [Drive.addressLimit, Drive.addressLimit, h.lba]
  have hsame : s.cur.nextSector.hdfile = s.cur.hdfile ∧ s.cur.nextSector.regs.secount = s.regs.secount := by
    unfold Drive.nextSector
    split_ifs <;> exact ⟨rfl, rfl⟩
  refine h.setDrive (hsame.1.trans h.image) (lbaCmd_nextSector _) (skip512_nextSector _) (hsame.2.trans h.count) ?_
  rw [(lbaAddress_nextSector s.cur).mpr (by rw [hlimit', h.address]; exact hlimit), h.address]
  omega

lemma At.addressed (h : At s₀ c image k n s) (hasked : Asked s₀ disc) (hsize : image.filesize = disc.filesize)
    (hk : k < wanted s₀) : addressed s = if k < existing s₀ disc then some image else none := by
  have hnoCd : (s.cdromenabled && s.drive) = false := by
    rw [h.cdrom, h.drive]
    exact hasked.noCd
  have himage : (s.drives s.drive).hdfile = some image := h.image
  have hhdd : s.isHdd s.drive = true := by simp [IdeState.isHdd, himage, hnoCd]
  have hhas : image.has s.cur.sectorIndex = decide (k < existing s₀ disc) := by
    rw [h.index]
    refine decide_eq_decide.mpr ?_
    rw [hsize, existing]
    omega
  rw [Ide.addressed, if_pos hhdd, h.image, Option.filter, hhas]
  simp

lemma At.isCdrom (h : At s₀ c image k n s) (hasked : Asked s₀ disc) : s.isCdrom = false := by
  rw [IdeState.isCdrom, h.cdrom, h.drive]
  exact hasked.noCd

lemma At.idnf (h : At s₀ c image k n s) (hexisting : existing s₀ disc < wanted s₀) :
    Over s₀ disc image (mediaErrorIdnf s) := by
  have herror := (h.setRegs (readyStat ||| errStat) idnfErr).irqRaise
  have hregs : (mediaErrorIdnf s).regs = { s.regs with atastat := readyStat ||| errStat, error := idnfErr } :=
    IdeState.regs_setRegs _ _
  refine ⟨herror.timer, herror.hdfile, herror.other, fun hall => absurd hall hexisting.ne, fun _ => ?_⟩
  rw [hregs]
  exact ⟨rfl, rfl⟩

lemma At.over (h : At s₀ c image k n s) (hall : existing s₀ disc = wanted s₀) (hstat : s.regs.atastat = readyStat) :
    Over s₀ disc image s :=
  ⟨h.timer, h.hdfile, h.other, fun _ => hstat, fun hfew => absurd hall hfew.ne⟩

lemma at_given (hasked : Asked s disc) (c : Command) (atastat : UInt8) :
    At s c disc 0 0 (((s.giveCommand c.code).setStat atastat).callbackIn 0) := by
  have hbase : At s c disc 0 0 { s with command := c.code, idecallback := 0 } :=
    ⟨hasked.reset, rfl, rfl, rfl, rfl, fun _ _ => rfl, hasked.image, rfl, rfl, (Int.sub_zero _).symm, rfl⟩
  exact (hbase.setRegs _ 0).setStat atastat

lemma count_done (hcounted : Counted s₀ disc) (hk : k < existing s₀ disc) :
    s₀.regs.secount - (k + 1 : Nat) = 0 ↔ k + 1 = wanted s₀ := by
  have hnonneg := hcounted.nonneg
  have hcount := hcounted.count
  have hle : existing s₀ disc ≤ wanted s₀ := min_le_left _ _
  unfold wanted at hle ⊢
  split_ifs with hzero
  · omega
  · rw [if_neg hzero] at hle
    omega

lemma next_limit (hcounted : Counted s₀ disc) (hk : k < existing s₀ disc) (hmore : k + 1 ≠ wanted s₀) :
    s₀.cur.lbaAddress.toNat + k + 1 < s₀.cur.addressLimit := by
  have hlimit := hcounted.limit
  have hle : existing s₀ disc ≤ wanted s₀ := min_le_left _ _
  omega

end At

/-! ## READ -/

/-- The `k`-th sector is in the buffer, and the guest has got the first `j` bytes of it. -/
structure Reading (s₀ : IdeState) (disc : Disc) (k j : Nat) (s : IdeState) : Prop extends
    At s₀ .read disc k k s where
  stat : s.regs.atastat = drqReadyStat
  pos : s.pos = j
  buffer : ∀ i, i < 512 → s.buffer i = disc.sector (s₀.cur.sectorIndex + k) i

/-- The guest has got `m` bytes. -/
def Got (s₀ : IdeState) (disc : Disc) (m : Nat) (s : IdeState) : Prop :=
  (m < 512 * existing s₀ disc ∧ Reading s₀ disc (m / 512) (m % 512) s) ∨
    (m = 512 * existing s₀ disc ∧ Over s₀ disc disc s)

section Read

variable {cd : Cd} {s₀ s : IdeState} {disc : Disc} {k j m : Nat}

lemma got_readSector (h : At s₀ .read disc k k s) (hasked : Asked s₀ disc) (hk : k < wanted s₀)
    (hle : k ≤ existing s₀ disc) : Got s₀ disc (512 * k) (readSector s) := by
  have haddressed := h.addressed hasked rfl hk
  unfold readSector
  rw [haddressed]
  by_cases hexists : k < existing s₀ disc
  · left
    simp only [hexists, ↓reduceIte]
    have hfilled : At s₀ .read disc k k (fill s disc).rewind := h.congr rfl rfl rfl rfl rfl rfl
    rw [Nat.mul_div_cancel_left k (by decide), Nat.mul_mod_right]
    refine ⟨by omega, (hfilled.setStat drqReadyStat).irqRaise, ?_, rfl, fun i hi => ?_⟩
    · exact congrArg IdeDriveRegs.atastat (IdeState.regs_setStat _ _)
    · rw [← h.index]
      exact if_pos hi
  · right
    simp only [hexists, ↓reduceIte]
    have hend : k = existing s₀ disc := by omega
    exact ⟨by rw [hend], h.idnf (by omega)⟩

lemma callbackide_read (cd : Cd) (h : At s₀ .read disc k k s) (hasked : Asked s₀ disc) : callbackide cd s = readSector s := by
  simp [callbackide, h.reset, h.command, ofCode_code, h.isCdrom hasked]

/-- **The 512th byte of a sector has been read**: the next one is, if one is wanted. -/
lemma got_readOn (h : At s₀ .read disc k k s) (hasked : Asked s₀ disc) (hcounted : Counted s₀ disc)
    (hk : k < existing s₀ disc) (hstat : s.regs.atastat = readyStat) : Got s₀ disc (512 * (k + 1)) (readOn cd s) := by
  have hle : existing s₀ disc ≤ wanted s₀ := min_le_left _ _
  have hdone := h.counted
  have hcount := hdone.count
  unfold readOn
  dsimp only
  by_cases hlast : k + 1 = wanted s₀
  · rw [if_neg (by rw [hcount, not_not, count_done hcounted hk]; exact hlast)]
    have hall : existing s₀ disc = wanted s₀ := by omega
    right
    refine ⟨by omega, hdone.over hall ?_⟩
    rw [IdeState.regs_setRegs]
    exact hstat
  · rw [if_pos (by rw [hcount, Ne, count_done hcounted hk]; exact hlast)]
    have hnext := ((hdone.next (next_limit hcounted hk hlast)).setStat busyStat).callbackIn
    rw [ideRunCallback, callbackide_read cd hnext hasked]
    exact got_readSector hnext hasked (by omega) (by omega)

lemma Reading.advance (h : Reading s₀ disc k j s) (n : Nat) : Reading s₀ disc k (j + n) (s.advance n) :=
  ⟨h.toAt.congr rfl rfl rfl rfl rfl rfl, h.stat, congrArg (· + n) h.pos, h.buffer⟩

lemma got_of_reading (h : Reading s₀ disc k j s) (hk : k < existing s₀ disc) (hj : j < 512) :
    Got s₀ disc (512 * k + j) s := by
  have hdiv : (512 * k + j) / 512 = k := by omega
  have hmod : (512 * k + j) % 512 = j := by omega
  left
  rw [hdiv, hmod]
  exact ⟨by omega, h⟩

lemma got_byteRead (cd : Cd) (h : Reading s₀ disc k j s) (hasked : Asked s₀ disc) (hcounted : Counted s₀ disc)
    (hk : k < existing s₀ disc) (hj : j ≤ 512) : Got s₀ disc (512 * k + j) (byteRead cd s) := by
  have hpos := h.pos
  unfold byteRead
  split
  · have hend : j = 512 := by omega
    have hready := h.toAt.rewind.setStat readyStat
    have hread : (s.rewind.setStat readyStat).command = Command.read.code := h.command
    rw [hend, ideReadComplete, if_pos hread]
    exact got_readOn hready hasked hcounted hk (congrArg IdeDriveRegs.atastat (IdeState.regs_setStat _ _))
  · exact got_of_reading h hk (by omega)

lemma got_wordRead (cd : Cd) (h : Reading s₀ disc k j s) (hasked : Asked s₀ disc) (hcounted : Counted s₀ disc)
    (hk : k < existing s₀ disc) (hj : j ≤ 512) : Got s₀ disc (512 * k + j) (wordRead cd s) := by
  have hpos := h.pos
  have hpacket : ¬s.command = Command.packetcmd.code := by rw [h.command]; decide
  unfold wordRead
  simp only [hpacket, not_false_eq_true, and_true, false_and, or_false, ↓reduceIte]
  split
  · have hend : j = 512 := by omega
    have hrewound : At s₀ .read disc k k (s.setPacketstatus 0).rewind := h.toAt.congr rfl rfl rfl rfl rfl rfl
    have hready := hrewound.setStat readyStat
    have hread : ((s.setPacketstatus 0).rewind.setStat readyStat).command = Command.read.code := h.command
    rw [if_pos hread, hend]
    exact got_readOn hready hasked hcounted hk (congrArg IdeDriveRegs.atastat (IdeState.regs_setStat _ _))
  · exact got_of_reading h hk (by omega)

def bytesFrom (disc : Disc) (a n : Nat) : List UInt8 := (List.range n).map fun i => disc.bytes (a + i)

lemma bytesFrom_append (a n n' : Nat) :
    bytesFrom disc a (n + n') = bytesFrom disc a n ++ bytesFrom disc (a + n) n' := by
  simp [bytesFrom, List.range_add, Nat.add_assoc]

lemma gets_readByte (cd : Cd) (h : Reading s₀ disc k j s) (hj : j < 512) :
    gets cd s .readByte = bytesFrom disc (512 * s₀.cur.sectorIndex + (512 * k + j)) 1 := by
  have hbyte := h.buffer j hj
  have haddress : 512 * (s₀.cur.sectorIndex + k) + j = 512 * s₀.cur.sectorIndex + (512 * k + j) + 0 := by omega
  simp only [gets, readByte, h.pos, hbyte, Disc.sector, haddress, bytesFrom, List.range_one, List.map_cons, List.map_nil]

lemma gets_readHalf (cd : Cd) (h : Reading s₀ disc k j s) (hj : j < 512) (heven : s.pos % 2 = 0) :
    gets cd s .readHalf = bytesFrom disc (512 * s₀.cur.sectorIndex + (512 * k + j)) 2 := by
  have hpos := h.pos
  have hat : s.pos / 2 * 2 = j := by omega
  have hlow := h.buffer j hj
  have hhigh := h.buffer (j + 1) (by omega)
  have hfirst : 512 * (s₀.cur.sectorIndex + k) + j = 512 * s₀.cur.sectorIndex + (512 * k + j) + 0 := by omega
  have hsecond : 512 * (s₀.cur.sectorIndex + k) + (j + 1) = 512 * s₀.cur.sectorIndex + (512 * k + j) + 1 := by omega
  simp only [gets, readidew, hat, hlow, hhigh, Disc.sector, hfirst, hsecond, bytesFrom, List.range_succ,
    List.range_zero, List.nil_append, List.cons_append, List.map_cons, List.map_nil]

lemma Reading.readPort (h : Reading s₀ disc k j s) (port : Port) : Reading s₀ disc k j (readide s port).2 := by
  cases port
  case command => exact ⟨h.toAt.congr rfl rfl rfl rfl rfl rfl, h.stat, h.pos, h.buffer⟩
  all_goals exact h

lemma Over.readPort {image : Disc} (h : Over s₀ disc image s) (port : Port) :
    Over s₀ disc image (readide s port).2 := by
  cases port
  case command => exact ⟨h.timer, h.image, h.other, h.finished, h.offEnd⟩
  all_goals exact h

/-- **One access of a READ**: what it gets is what is next. -/
lemma Got.step (cd : Cd) (h : Got s₀ disc m s) (hasked : Asked s₀ disc) (hcounted : Counted s₀ disc) {a : Access}
    (ha : Reads s a) (hm : m + (gets cd s a).length ≤ 512 * existing s₀ disc) :
    gets cd s a = bytesFrom disc (512 * s₀.cur.sectorIndex + m) (gets cd s a).length ∧
      Got s₀ disc (m + (gets cd s a).length) (step cd s a) := by
  cases a with
  | write port val => exact absurd ha id
  | writeByte val => exact absurd ha id
  | writeHalf val => exact absurd ha id
  | read port =>
    refine ⟨rfl, ?_⟩
    obtain ⟨hlt, hreading⟩ | ⟨heq, hover⟩ := h
    · exact Or.inl ⟨hlt, hreading.readPort port⟩
    · exact Or.inr ⟨heq, hover.readPort port⟩
  | timeout =>
    refine ⟨rfl, ?_⟩
    have htimer : s.idecallback = 0 := by
      obtain ⟨-, hreading⟩ | ⟨-, hover⟩ := h
      · exact hreading.timer
      · exact hover.timer
    have hsame : Ide.step cd s .timeout = s := if_pos htimer
    rw [hsame]
    exact h
  | readByte =>
    obtain ⟨hlt, hreading⟩ | ⟨heq, -⟩ := h
    · have hpos : m % 512 < 512 := Nat.mod_lt m (by decide)
      have hm' : 512 * (m / 512) + m % 512 = m := Nat.div_add_mod m 512
      have hgets := gets_readByte cd hreading hpos
      have hnext := got_byteRead cd (hreading.advance 1) hasked hcounted (by omega) (by omega)
      rw [hm'] at hgets
      rw [← Nat.add_assoc, hm'] at hnext
      exact ⟨hgets, hnext⟩
    · simp only [gets, List.length_singleton] at hm
      omega
  | readHalf =>
    obtain ⟨hlt, hreading⟩ | ⟨heq, -⟩ := h
    · have heven : s.pos % 2 = 0 := ha
      have hat := hreading.pos
      have hpos : m % 512 < 512 := Nat.mod_lt m (by decide)
      have hm' : 512 * (m / 512) + m % 512 = m := Nat.div_add_mod m 512
      have hgets := gets_readHalf cd hreading hpos heven
      have hnext := got_wordRead cd (hreading.advance 2) hasked hcounted (by omega) (by omega)
      rw [hm'] at hgets
      rw [← Nat.add_assoc, hm'] at hnext
      exact ⟨hgets, hnext⟩
    · simp only [gets, List.length_cons, List.length_nil] at hm
      omega

/-- **The accesses of a READ**, one after the other. -/
lemma Got.run (hasked : Asked s₀ disc) (hcounted : Counted s₀ disc) :
    ∀ (as : List Access) (m : Nat) (s : IdeState), Got s₀ disc m s → Runs.Along (Ide.step cd) Reads s as →
      m + (received cd s as).length ≤ 512 * existing s₀ disc →
      received cd s as = bytesFrom disc (512 * s₀.cur.sectorIndex + m) (received cd s as).length ∧
        Got s₀ disc (m + (received cd s as).length) (Runs.exec (Ide.step cd) s as)
  | [], m, s, h, _, _ => ⟨rfl, h⟩
  | a :: as, m, s, h, hreads, hm => by
    rw [Runs.along_cons] at hreads
    have hsplit : received cd s (a :: as) = gets cd s a ++ received cd (Ide.step cd s a) as := rfl
    rw [hsplit, List.length_append] at hm ⊢
    obtain ⟨hgets, hstep⟩ := h.step cd hasked hcounted hreads.1 (by omega)
    obtain ⟨hrest, hend⟩ := Got.run hasked hcounted as _ _ hstep hreads.2 (by omega)
    refine ⟨?_, ?_⟩
    · rw [bytesFrom_append, ← hgets, Nat.add_assoc, ← hrest]
    · rw [← Nat.add_assoc]
      exact hend

lemma Got.readTo (h : Got s₀ disc m s) (hasked : Asked s₀ disc) {data : List UInt8} (hlength : data.length = m)
    (hdata : data = bytesFrom disc (512 * s₀.cur.sectorIndex) data.length) : ReadTo s₀ disc data s := by
  have himage : (s₀.drives s₀.drive).hdfile = some disc := hasked.image
  have himages : (s.drives s₀.drive).hdfile = some disc ∧
      ∀ d, d ≠ s₀.drive → (s.drives d).hdfile = (s₀.drives d).hdfile := by
    obtain ⟨-, hreading⟩ | ⟨-, hover⟩ := h
    · exact ⟨hreading.hdfile, hreading.other⟩
    · exact ⟨hover.image, hover.other⟩
  refine ⟨fun d => ?_, hdata, fun hlt => ?_, fun heq hall => ?_, fun heq hfew => ?_⟩
  · by_cases hd : d = s₀.drive
    · rw [hd, himage, himages.1]
    · exact himages.2 d hd
  · obtain ⟨-, hreading⟩ | ⟨heq, -⟩ := h
    · exact hreading.stat
    · omega
  · obtain ⟨hlt, -⟩ | ⟨-, hover⟩ := h
    · omega
    · exact hover.finished hall
  · obtain ⟨hlt, -⟩ | ⟨-, hover⟩ := h
    · omega
    · exact hover.offEnd hfew

lemma got_command (hasked : Asked s disc) (hcounted : Counted s disc) :
    Got s disc 0 (step cd s (.write .command Command.read.code)) := by
  have hwanted : 0 < wanted s := by
    have hnonneg := hcounted.nonneg
    unfold wanted
    split_ifs <;> omega
  have hat := at_given hasked .read busyStat
  have hgot := got_readSector hat hasked hwanted (Nat.zero_le _)
  have hstep : step cd s (.write .command Command.read.code) =
      readSector (((s.giveCommand Command.read.code).setStat busyStat).callbackIn 0) :=
    callbackide_read cd hat hasked
  rw [hstep]
  exact hgot

end Read

/-! ## WRITE -/

lemma overwrite_append (disc : Disc) (n : Nat) {k : Nat} (data : List UInt8) (more : List UInt8)
    (hwhole : 512 * k ≤ data.length) : disc.overwrite n k (data ++ more) = disc.overwrite n k data := by
  unfold Disc.overwrite
  congr 1
  funext i
  split_ifs with hi
  · exact List.getD_append _ _ _ _ (by omega)
  · rfl

lemma overwrite_put (disc : Disc) {n k : Nat} {data : List UInt8} {buffer : Nat → UInt8}
    (hbuffer : ∀ i, i < 512 → buffer i = data.getD (512 * k + i) 0) :
    (disc.overwrite n k data).put (n + k) buffer = disc.overwrite n (k + 1) data := by
  unfold Disc.overwrite Disc.put
  congr 1
  funext i
  by_cases hnew : 512 * (n + k) ≤ i ∧ i < 512 * (n + k) + 512
  · have hat : 512 * k + (i - 512 * (n + k)) = i - 512 * n := by omega
    rw [if_pos hnew, if_pos (by omega), hbuffer _ (by omega), hat]
  · rw [if_neg hnew]
    dsimp only
    by_cases hold : 512 * n ≤ i ∧ i < 512 * (n + k)
    · rw [if_pos hold, if_pos (by omega)]
    · rw [if_neg hold, if_neg (by omega)]

lemma overwrite_zero (disc : Disc) (n : Nat) (data : List UInt8) : disc.overwrite n 0 data = disc := by
  unfold Disc.overwrite
  have hbytes : (fun i => if 512 * n ≤ i ∧ i < 512 * (n + 0) then data.getD (i - 512 * n) 0 else disc.bytes i) =
      disc.bytes := by
    funext i
    exact if_neg (by omega)
  rw [hbytes]

/-- Before the `k`-th sector the image has been given the sectors sent, and of that one `j` bytes are in the buffer. -/
structure Taking (s₀ : IdeState) (disc : Disc) (data : List UInt8) (k j : Nat) (s : IdeState) : Prop extends
    At s₀ .write (disc.overwrite s₀.cur.sectorIndex k data) k k s where
  stat : s.regs.atastat = drqReadyStat
  packet : s.packetstatus ≠ 4 ∧ s.packetstatus ≠ 5
  pos : s.pos = j
  length : data.length = 512 * k + j
  buffer : ∀ i, i < j → s.buffer i = data.getD (512 * k + i) 0

def taken (s₀ : IdeState) (disc : Disc) : Nat := min (wanted s₀) (existing s₀ disc + 1)

/-- The data has been taken so far, or the transfer is over. -/
def Put (s₀ : IdeState) (disc : Disc) (data : List UInt8) (s : IdeState) : Prop :=
  (data.length < 512 * taken s₀ disc ∧ Taking s₀ disc data (data.length / 512) (data.length % 512) s) ∨
    (data.length = 512 * taken s₀ disc ∧
      Over s₀ disc (disc.overwrite s₀.cur.sectorIndex (existing s₀ disc) data) s)

section Write

variable {s₀ s : IdeState} {disc : Disc} {data : List UInt8} {k j : Nat}

lemma put_of_taking (h : Taking s₀ disc data k j s) (hk : k < taken s₀ disc) (hj : j < 512) : Put s₀ disc data s := by
  have hlength := h.length
  have hdiv : data.length / 512 = k := by omega
  have hmod : data.length % 512 = j := by omega
  left
  rw [hdiv, hmod]
  exact ⟨by omega, h⟩

lemma atastat_stepSector (s : IdeState) : (stepSector s).regs.atastat = s.regs.atastat := by
  have hsame : s.cur.nextSector.regs.atastat = s.regs.atastat := by
    unfold Drive.nextSector
    split_ifs <;> rfl
  rw [← hsame]
  exact congrArg (fun d => d.regs.atastat) (s.cur_setDrive _)

/-- **The 512th byte of a sector has been sent**: the image has it, if it has such a sector. -/
lemma put_writeSector (h : At s₀ .write (disc.overwrite s₀.cur.sectorIndex k data) k k s)
    (hpacket : s.packetstatus ≠ 4 ∧ s.packetstatus ≠ 5) (hlength : data.length = 512 * (k + 1))
    (hbuffer : ∀ i, i < 512 → s.buffer i = data.getD (512 * k + i) 0) (hasked : Asked s₀ disc)
    (hcounted : Counted s₀ disc) (hk : k < taken s₀ disc) : Put s₀ disc data (writeSector s) := by
  have hle : existing s₀ disc ≤ wanted s₀ := min_le_left _ _
  have htaken : k < wanted s₀ ∧ k ≤ existing s₀ disc := by
    unfold taken at hk
    omega
  have haddressed := h.addressed hasked rfl htaken.1
  unfold writeSector
  rw [haddressed]
  by_cases hexists : k < existing s₀ disc
  · simp only [hexists, ↓reduceIte, h.index, overwrite_put disc hbuffer]
    have hwritten : At s₀ .write (disc.overwrite s₀.cur.sectorIndex (k + 1) data) k k
        (s.setDrive s.drive { s.cur with hdfile := some (disc.overwrite s₀.cur.sectorIndex (k + 1) data) }) :=
      h.setDrive rfl rfl rfl h.count h.address
    have hdone := hwritten.irqRaise.counted
    have hcount := hdone.count
    by_cases hlast : k + 1 = wanted s₀
    · rw [if_neg (by rw [not_not]; exact hcount.trans ((count_done hcounted hexists).mpr hlast))]
      have hall : existing s₀ disc = wanted s₀ := by omega
      have hover := (hdone.setStat readyStat).over hall (congrArg IdeDriveRegs.atastat (IdeState.regs_setStat _ _))
      right
      refine ⟨?_, ?_⟩
      · unfold taken
        omega
      · rw [show existing s₀ disc = k + 1 by omega]
        exact hover
    · rw [if_pos (by intro hzero; exact hlast ((count_done hcounted hexists).mp (hcount.symm.trans hzero)))]
      have hnext := (hdone.setStat drqReadyStat).rewind.next (next_limit hcounted hexists hlast)
      refine put_of_taking (k := k + 1) (j := 0) ⟨hnext, ?_, hpacket, rfl, by omega, fun i hi => absurd hi (by omega)⟩
        ?_ (by decide)
      · rw [atastat_stepSector]
        exact congrArg IdeDriveRegs.atastat (IdeState.regs_setStat _ _)
      · unfold taken
        omega
  · simp only [hexists, ↓reduceIte]
    have hend : k = existing s₀ disc := by omega
    right
    refine ⟨?_, ?_⟩
    · unfold taken
      omega
    · rw [← hend]
      exact h.idnf (by omega)

lemma callbackide_write {image : Disc} (cd : Cd) (h : At s₀ .write image k k s) (hasked : Asked s₀ disc) :
    callbackide cd s = writeSector s := by
  simp [callbackide, h.reset, h.command, ofCode_code, h.isCdrom hasked]

lemma put_writeComplete (cd : Cd) (h : Taking s₀ disc data k 512 s) (hasked : Asked s₀ disc)
    (hcounted : Counted s₀ disc) (hk : k < taken s₀ disc) : Put s₀ disc data (ideWriteComplete cd s) := by
  have hbusy := (h.toAt.rewind.setStat busyStat).callbackIn
  rw [ideWriteComplete, ideRunCallback, callbackide_write cd hbusy hasked]
  exact put_writeSector hbusy h.packet (by rw [h.length]; omega) h.buffer hasked hcounted hk

lemma Taking.putByte (h : Taking s₀ disc data k j s) (val : UInt8) :
    Taking s₀ disc (data ++ [val]) k (j + 1) ((s.putByte s.pos val).advance 1) := by
  have hpos := h.pos
  have hlength := h.length
  have himage := overwrite_append disc s₀.cur.sectorIndex (k := k) data [val] (by omega)
  have hat : At s₀ .write (disc.overwrite s₀.cur.sectorIndex k (data ++ [val])) k k ((s.putByte s.pos val).advance 1) := by
    rw [himage]
    exact h.toAt.congr rfl rfl rfl rfl rfl rfl
  refine ⟨hat, h.stat, h.packet, congrArg (· + 1) hpos, by simp [hlength]; omega, fun i hi => ?_⟩
  change (if i = s.pos then val else s.buffer i) = _
  split_ifs with hlast
  · rw [List.getD_append_right _ _ _ _ (by omega), show 512 * k + i - data.length = 0 by omega]
    rfl
  · rw [List.getD_append _ _ _ _ (by omega)]
    exact h.buffer i (by omega)

lemma put_byteWritten (cd : Cd) (h : Taking s₀ disc data k j s) (hasked : Asked s₀ disc) (hcounted : Counted s₀ disc)
    (hk : k < taken s₀ disc) (hj : j ≤ 512) : Put s₀ disc data (byteWritten cd s) := by
  have hpos := h.pos
  unfold byteWritten
  split
  · have hend : j = 512 := by omega
    subst hend
    exact put_writeComplete cd h hasked hcounted hk
  · exact put_of_taking h hk (by omega)

lemma put_wordWritten (cd : Cd) (h : Taking s₀ disc data k j s) (hasked : Asked s₀ disc) (hcounted : Counted s₀ disc)
    (hk : k < taken s₀ disc) (hj : j ≤ 512) : Put s₀ disc data (wordWritten cd s) := by
  have hpos := h.pos
  have hpacket : ¬s.command = Command.packetcmd.code := by rw [h.command]; decide
  unfold wordWritten
  rw [if_neg h.packet.1, if_neg h.packet.2, if_neg fun hboth => hpacket hboth.1]
  split
  · have hend : j = 512 := by omega
    subst hend
    exact put_writeComplete cd h hasked hcounted hk
  · exact put_of_taking h hk (by omega)

lemma Taking.readPort (h : Taking s₀ disc data k j s) (port : Port) : Taking s₀ disc data k j (readide s port).2 := by
  cases port
  case command => exact ⟨h.toAt.congr rfl rfl rfl rfl rfl rfl, h.stat, h.packet, h.pos, h.length, h.buffer⟩
  all_goals exact h

/-- **One access of a WRITE.** -/
lemma Put.step (cd : Cd) (h : Put s₀ disc data s) (hasked : Asked s₀ disc) (hcounted : Counted s₀ disc) {a : Access}
    (ha : Writes s a) (hm : data.length + (sends a).length ≤ 512 * taken s₀ disc) :
    Put s₀ disc (data ++ sends a) (step cd s a) := by
  have hpos : data.length % 512 < 512 := Nat.mod_lt _ (by decide)
  cases a with
  | write port val => exact absurd ha id
  | readByte => exact absurd ha id
  | readHalf => exact absurd ha id
  | read port =>
    have hnone : data ++ sends (.read port) = data := List.append_nil data
    rw [hnone]
    obtain ⟨hlt, htaking⟩ | ⟨heq, hover⟩ := h
    · exact Or.inl ⟨hlt, htaking.readPort port⟩
    · exact Or.inr ⟨heq, hover.readPort port⟩
  | timeout =>
    have hnone : data ++ sends .timeout = data := List.append_nil data
    rw [hnone]
    have htimer : s.idecallback = 0 := by
      obtain ⟨-, htaking⟩ | ⟨-, hover⟩ := h
      · exact htaking.timer
      · exact hover.timer
    have hsame : Ide.step cd s .timeout = s := if_pos htimer
    rw [hsame]
    exact h
  | writeByte val =>
    rw [sends, List.length_singleton] at hm
    obtain ⟨hlt, htaking⟩ | ⟨heq, -⟩ := h
    · exact put_byteWritten cd (htaking.putByte val) hasked hcounted (by omega) (by omega)
    · omega
  | writeHalf val =>
    rw [sends, List.length_cons, List.length_singleton] at hm
    obtain ⟨hlt, htaking⟩ | ⟨heq, -⟩ := h
    · have heven : s.pos % 2 = 0 := ha
      have hat := htaking.pos
      have hboth := (htaking.putByte val.toUInt8).putByte (val >>> 8).toUInt8
      have hfirst : s.pos / 2 * 2 = s.pos := by omega
      have hhalf : Ide.step cd s (.writeHalf val) = wordWritten cd
          ((((s.putByte s.pos val.toUInt8).advance 1).putByte (s.pos + 1) (val >>> 8).toUInt8).advance 1) := by
        change writeidew cd s val = _
        rw [writeidew, hfirst]
        rfl
      rw [hhalf, sends, ← List.singleton_append, ← List.append_assoc]
      exact put_wordWritten cd hboth hasked hcounted (by omega) (by omega)
    · omega

/-- **The accesses of a WRITE**, one after the other. -/
lemma Put.run {cd : Cd} (hasked : Asked s₀ disc) (hcounted : Counted s₀ disc) :
    ∀ (as : List Access) (data : List UInt8) (s : IdeState), Put s₀ disc data s →
      Runs.Along (Ide.step cd) Writes s as → data.length + (sent as).length ≤ 512 * taken s₀ disc →
      Put s₀ disc (data ++ sent as) (Runs.exec (Ide.step cd) s as)
  | [], data, s, h, _, _ => by
    have hnone : data ++ sent [] = data := List.append_nil data
    rw [hnone]
    exact h
  | a :: as, data, s, h, hwrites, hm => by
    rw [Runs.along_cons] at hwrites
    have hsplit : sent (a :: as) = sends a ++ sent as := rfl
    rw [hsplit, List.length_append] at hm
    have hstep := h.step cd hasked hcounted hwrites.1 (by omega)
    rw [hsplit, ← List.append_assoc]
    exact Put.run hasked hcounted as _ _ hstep hwrites.2 (by rw [List.length_append]; omega)

lemma Put.writtenTo (h : Put s₀ disc data s) : WrittenTo s₀ disc data s := by
  have hle : existing s₀ disc ≤ wanted s₀ := min_le_left _ _
  unfold Put taken at h
  obtain ⟨hlt, htaking⟩ | ⟨heq, hover⟩ := h
  · refine ⟨?_, htaking.other, fun _ => htaking.stat, fun heq hall => ?_, fun heq hfew => ?_⟩
    · rw [min_eq_left (by omega)]
      exact htaking.hdfile
    · omega
    · omega
  · refine ⟨?_, hover.other, fun hlt => ?_, fun _ => hover.finished, fun _ => hover.offEnd⟩
    · rw [min_eq_right (by omega)]
      exact hover.image
    · omega

lemma put_command (cd : Cd) (hasked : Asked s disc) (hcounted : Counted s disc) (htimer : s.idecallback = 0)
    (hpacket : s.packetstatus ≠ 4 ∧ s.packetstatus ≠ 5) :
    Put s disc [] (step cd s (.write .command Command.write.code)) := by
  have hwanted : 0 < wanted s := by
    have hnonneg := hcounted.nonneg
    unfold wanted
    split_ifs <;> omega
  have hat : At s .write (disc.overwrite s.cur.sectorIndex 0 []) 0 0
      ((s.giveCommand Command.write.code).setStat drqReadyStat).rewind := by
    rw [overwrite_zero]
    exact (at_given hasked .write drqReadyStat).congr rfl rfl rfl rfl rfl htimer
  have htaking : Taking s disc [] 0 0 ((s.giveCommand Command.write.code).setStat drqReadyStat).rewind :=
    ⟨hat, congrArg IdeDriveRegs.atastat (IdeState.regs_setStat _ _), hpacket, rfl, rfl, fun i hi => absurd hi (by omega)⟩
  refine put_of_taking htaking ?_ (by decide)
  unfold taken
  omega

end Write

/-! ## When nothing is being written -/

def images (s : IdeState) : Bool → Option Disc := fun d => (s.drives d).hdfile

/-- A write or format is the command, and no reset is on. -/
def Serves (s : IdeState) : Prop :=
  s.reset = false ∧ (s.command = Command.write.code ∨ s.command = Command.format.code)

/-- A write waits for data. -/
def InWrite (s : IdeState) : Prop := s.command = Command.write.code ∧ s.regs.atastat = drqReadyStat

/-- The accesses by which an image changes though no sector of a WRITE has been sent: what is left in `command` is
what the end of a sector, or of a count, does again. -/
def Stray (s : IdeState) : Access → Prop
  | .write .command val => val = Command.format.code
  | .writeByte _ => 512 ≤ s.pos + 1 ∧ Serves s ∧ ¬InWrite s
  | .writeHalf _ => 512 ≤ s.pos + 2 ∧ Serves s ∧ ¬InWrite s
  | .timeout => s.idecallback ≠ 0 ∧ Serves s
  | _ => False

/-- Only a write's data changes an image. -/
def Keeps (cd : Cd) (s : IdeState) (a : Access) : Prop :=
  (InWrite s ∧ sends a ≠ []) ∨ images (step cd s a) = images s

section Quiet

variable {cd : Cd} {s t u : IdeState} {v : Drive}

lemma images_setDrive (hv : v.hdfile = (s.drives s.drive).hdfile) : images (s.setDrive s.drive v) = images s := by
  funext d
  by_cases hd : d = s.drive
  · subst hd
    exact (congrArg Drive.hdfile (Function.update_self _ _ _)).trans hv
  · exact congrArg Drive.hdfile (Function.update_of_ne hd _ _)

lemma images_setRegs (s : IdeState) (r : IdeDriveRegs) : images (s.setRegs r) = images s := images_setDrive rfl

lemma images_setStat (s : IdeState) (atastat : UInt8) : images (s.setStat atastat) = images s := images_setDrive rfl

lemma images_done (s : IdeState) : images (done s) = images s := images_setStat s _

lemma images_abortCmd (s : IdeState) : images (abortCmd s) = images s := images_setRegs s _

lemma images_mediaErrorIdnf (s : IdeState) : images (mediaErrorIdnf s) = images s := images_setRegs s _

lemma images_stepSector (s : IdeState) : images (stepSector s) = images s := by
  refine images_setDrive ?_
  unfold Drive.nextSector
  split_ifs <;> rfl

lemma images_packet (s : IdeState) (f : PacketView → PacketView) : images (s.packet f) = images s := images_setRegs s _

lemma images_resetSharedState (s : IdeState) : images (resetSharedState s) = images s := by
  funext d
  cases d <;> rfl

lemma images_readSector (s : IdeState) : images (readSector s) = images s := by
  unfold readSector
  split
  · exact images_mediaErrorIdnf s
  · exact images_setStat _ _

lemma images_verifySector (s : IdeState) : images (verifySector s) = images s := by
  unfold verifySector
  split
  · exact images_mediaErrorIdnf s
  · dsimp only
    split
    · exact (images_setStat _ _).trans ((images_stepSector _).trans (images_setRegs _ _))
    · exact (images_done _).trans (images_setRegs _ _)

lemma images_packetCallback (s : IdeState) : images (packetCallback cd s) = images s := by
  unfold packetCallback
  split_ifs
  · exact images_setRegs _ _
  · exact (images_packet _ _).trans (images_setStat _ _)
  · exact images_done _
  · exact images_setStat _ _
  · exact images_setStat _ _
  · exact images_packet _ _
  · exact images_setStat _ _
  · exact images_setStat _ _
  · rfl

/-- **What a command does** to an image, if it is neither a WRITE nor a FORMAT: nothing. -/
lemma images_callbackide (hserves : ¬Serves s) : images (callbackide cd s) = images s := by
  unfold callbackide
  by_cases hreset : s.reset = true
  · rw [if_pos hreset]
    exact images_resetSharedState s
  · have hcommand : ∀ c, c = .write ∨ c = .format → Command.ofCode s.command ≠ some c := by
      intro c hc hcode
      have hat : s.command = c.code := (code_of_ofCode hcode).symm
      refine hserves ⟨Bool.eq_false_iff.mpr hreset, ?_⟩
      rcases hc with rfl | rfl
      · exact Or.inl hat
      · exact Or.inr hat
    rw [if_neg hreset]
    cases hcode : Command.ofCode s.command with
    | none => exact images_abortCmd s
    | some c =>
      cases c <;> dsimp only
      case write => exact absurd hcode (hcommand _ (Or.inl rfl))
      case format => exact absurd hcode (hcommand _ (Or.inr rfl))
      case srst => exact images_setRegs _ _
      case setidle1 => exact images_abortCmd s
      case packetcmd => exact images_packetCallback s
      all_goals split
      case read.isFalse => exact images_readSector s
      case verify.isFalse => exact images_verifySector s
      case specify.isFalse => exact (images_done _).trans (images_setDrive rfl)
      case readNativeMax.isFalse => exact (images_done _).trans (images_setRegs _ _)
      case pidentify.isTrue => exact images_setRegs _ _
      case identify.isTrue => exact (images_abortCmd _).trans (images_setRegs _ _)
      case identify.isFalse =>
        split
        · exact images_abortCmd s
        · exact images_setStat _ _
      all_goals first | exact images_abortCmd s | exact images_done s

lemma images_served (hserves : ¬Serves s) (hreset : t.reset = s.reset) (hcommand : t.command = s.command)
    (himages : images t = images u) : images (callbackide cd t) = images u := by
  have ht : ¬Serves t := by
    rw [Serves, hreset, hcommand]
    exact hserves
  exact (images_callbackide ht).trans himages

lemma images_readOn (hread : s.command = Command.read.code) : images (readOn cd s) = images s := by
  have hserves : ¬Serves s := by
    rw [Serves, hread]
    rintro ⟨-, h | h⟩ <;> exact absurd h (by decide)
  unfold readOn
  dsimp only
  split
  · exact images_served hserves rfl rfl
      ((images_setStat _ _).trans ((images_stepSector _).trans (images_setRegs _ _)))
  · exact images_setRegs _ _

lemma images_writeComplete (hserves : ¬Serves s) : images (ideWriteComplete cd s) = images s :=
  images_served hserves rfl rfl (images_setStat s _)

lemma images_wordWritten {t : IdeState} (hserves : 512 ≤ t.pos → ¬Serves t) :
    images (wordWritten cd t) = images t := by
  unfold wordWritten packetWord
  split_ifs with _ _ _ _ hend
  · rfl
  · rfl
  · rfl
  · exact images_setStat (t.setPacketstatus 1).rewind busyStat
  · exact images_writeComplete (hserves hend)
  · rfl

lemma images_writeDriveHead (s : IdeState) (val : UInt8) : images (writeDriveHead s val) = images s := by
  by_cases hsame : selects val = s.drive
  · have hdrives := writeDriveHead_same s hsame
    funext d
    rw [images, hdrives]
    by_cases hd : d = s.drive
    · subst hd
      rw [Function.update_self]
      rfl
    · rw [Function.update_of_ne hd]
      rfl
  · have hdrives := writeDriveHead_other s hsame
    funext d
    rw [images, hdrives]
    by_cases hd : d = selects val
    · subst hd
      rw [Function.update_self]
      rfl
    · rw [Function.update_of_ne hd]
      by_cases hleft : d = s.drive
      · subst hleft
        rw [Function.update_self]
        rfl
      · rw [Function.update_of_ne hleft]
        rfl

lemma images_writeCommand {val : UInt8} (hformat : val ≠ Command.format.code) :
    images (writeCommand cd s val) = images s := by
  have hgiven : images (s.giveCommand val) = images s := images_setRegs { s with command := val } _
  unfold writeCommand
  dsimp only
  split
  case h_4 => exact (images_setStat _ _).trans hgiven
  case h_5 => exact (images_setStat _ _).trans hgiven
  case h_6 c _ _ _ hwrite _ hcode =>
    have hserves : ¬Serves (s.giveCommand val) := by
      rintro ⟨-, h | h⟩
      · have hval : val = Command.write.code := h
        rw [hval, ofCode_code] at hcode
        exact hwrite (Option.some.inj hcode).symm
      · exact hformat h
    exact images_served hserves rfl rfl ((images_setStat _ _).trans hgiven)
  case h_7 => exact (images_abortCmd _).trans hgiven
  all_goals exact (images_setStat _ _).trans hgiven

/-- **One access.** -/
lemma keeps_of_not_stray {a : Access} (h : ¬Stray s a) : Keeps cd s a := by
  by_cases hin : InWrite s ∧ sends a ≠ []
  · exact Or.inl hin
  · right
    cases a with
    | write port val =>
      cases port with
      | driveHead => exact images_writeDriveHead s val
      | command => exact images_writeCommand h
      | control =>
        change images (writeide cd s .control val) = images s
        unfold writeide
        dsimp only
        split
        · exact images_setStat _ _
        · rfl
      | _ => exact images_setRegs s _
    | read port => cases port <;> rfl
    | writeByte val =>
      have hnot : ¬InWrite s := fun h => hin ⟨h, List.cons_ne_nil _ _⟩
      change images (byteWritten cd _) = images s
      unfold byteWritten
      split
      case isTrue hend =>
        have hserves : ¬Serves s := fun hs => h ⟨hend, hs, hnot⟩
        exact images_writeComplete (s := (s.putByte s.pos val).advance 1) hserves
      case isFalse => rfl
    | writeHalf val =>
      have hnot : ¬InWrite s := fun h => hin ⟨h, List.cons_ne_nil _ _⟩
      have hserves : 512 ≤ s.pos + 2 → ¬Serves s := fun hend hs => h ⟨hend, hs, hnot⟩
      exact images_wordWritten (t := ((s.putByte _ _).putByte _ _).advance 2) hserves
    | readByte =>
      change images (byteRead cd _) = images s
      unfold byteRead ideReadComplete
      dsimp only
      split_ifs with _ hread
      · exact (images_readOn hread).trans (images_setStat _ _)
      · exact images_setStat _ _
      · rfl
    | readHalf =>
      change images (wordRead cd _) = images s
      unfold wordRead
      dsimp only
      split_ifs with _ _ hread
      · exact images_packet _ _
      · exact (images_readOn hread).trans (images_setStat _ _)
      · exact images_setStat _ _
      · rfl
    | timeout =>
      change images (timeout cd s) = images s
      unfold timeout
      split
      case isTrue => rfl
      case isFalse hpending =>
        have hserves : ¬Serves s := fun hs => h ⟨hpending, hs⟩
        exact images_served hserves rfl rfl rfl

end Quiet

/-! ## A transfer moves the sectors asked for -/

/-- **A transfer moves exactly the sectors asked for**: a READ or a WRITE that is as `Asked` and `Counted` say, by any
accesses in its direction of which the halfwords are at even places; and in every run without stray accesses the
images change by the sectors of a WRITE only. -/
theorem transfers_move_what_is_asked (cd : Cd) :
    (∀ s disc, Asked s disc → Counted s disc → ∀ as,
      let given := step cd s (.write .command Command.read.code)
      Runs.Along (step cd) Reads given as → (received cd given as).length ≤ 512 * existing s disc →
        ReadTo s disc (received cd given as) (Runs.exec (step cd) given as)) ∧
    (∀ s disc, Asked s disc → Counted s disc → s.idecallback = 0 → s.packetstatus ≠ 4 ∧ s.packetstatus ≠ 5 → ∀ as,
      let given := step cd s (.write .command Command.write.code)
      Runs.Along (step cd) Writes given as → (sent as).length ≤ 512 * min (wanted s) (existing s disc + 1) →
        WrittenTo s disc (sent as) (Runs.exec (step cd) given as)) ∧
    ∀ s as, Runs.Along (step cd) (fun s a => ¬Stray s a) s as → Runs.Along (step cd) (Keeps cd) s as := by
  refine ⟨fun s disc hasked hcounted as => ?_, fun s disc hasked hcounted htimer hpacket as => ?_, fun s as hquiet => ?_⟩
  · intro given hreads hlength
    obtain ⟨hbytes, hgot⟩ := Got.run hasked hcounted as 0 given (got_command hasked hcounted) hreads (by omega)
    rw [Nat.zero_add] at hgot
    exact hgot.readTo hasked rfl hbytes
  · intro given hwrites hlength
    have hput := Put.run hasked hcounted as [] given (put_command cd hasked hcounted htimer hpacket) hwrites
      (by rw [List.length_nil, Nat.zero_add]; exact hlength)
    exact hput.writtenTo
  · exact Runs.along_of_inv (I := fun _ => True) (fun _ _ _ _ => trivial) (fun _ _ _ h => keeps_of_not_stray h) as s
      trivial hquiet

def discsOfOnes : IdeState :=
  { twoDiscs with drives := fun _ => { smallDrive with hdfile := some ⟨fun _ => 1, 4096⟩ } }

def firstBytes : List Access := [.readHalf, .read .command, .readByte]

/-- The first sector and two bytes of the next. -/
def overSector : List Access := .readHalf :: .read .command :: List.replicate 512 .readByte

def sevens : List Access := List.replicate 600 (.writeByte 7)

theorem transfers_move_what_is_asked_ones :
    let s := step noCd discsOfOnes (.write .secount 2)
    let reading := step noCd s (.write .command Command.read.code)
    let writing := step noCd s (.write .command Command.write.code)
    received noCd reading overSector = List.replicate 514 1 ∧
      ReadTo s ⟨fun _ => 1, 4096⟩ (received noCd reading overSector) (Runs.exec (step noCd) reading overSector) ∧
      WrittenTo s ⟨fun _ => 1, 4096⟩ (sent sevens) (Runs.exec (step noCd) writing sevens) ∧
      Runs.Along (step noCd) (Keeps noCd) s firstBytes := by
  intro s reading writing
  have hmoves := transfers_move_what_is_asked noCd
  have hasked : Asked s ⟨fun _ => 1, 4096⟩ := ⟨rfl, rfl, rfl⟩
  have hcounted : Counted s ⟨fun _ => 1, 4096⟩ := ⟨by decide, by decide, by decide⟩
  have hreads : Runs.Along (step noCd) Reads reading overSector := by
    rw [overSector, Runs.along_cons, Runs.along_cons]
    refine ⟨?_, trivial, Runs.along_of_forall fun a ha t => ?_⟩
    · unfold Reads
      decide +kernel
    · rw [List.eq_of_mem_replicate ha]
      trivial
  have hwrites : Runs.Along (step noCd) Writes writing sevens := by
    refine Runs.along_of_forall fun a ha t => ?_
    rw [List.eq_of_mem_replicate ha]
    trivial
  have hquiet : Runs.Along (step noCd) (fun s a => ¬Stray s a) s firstBytes := by
    simp only [firstBytes, Runs.along_cons, Runs.along_nil, and_true]
    exact ⟨id, id, id⟩
  have hbytes : received noCd reading overSector = List.replicate 514 1 := by decide +kernel
  refine ⟨hbytes, hmoves.1 _ _ hasked hcounted _ hreads ?_, hmoves.2.1 _ _ hasked hcounted rfl (by decide) _ hwrites ?_,
    hmoves.2.2 _ _ hquiet⟩
  · rw [hbytes, List.length_replicate]
    decide
  · decide +kernel

def writeAfterSeek : List Access :=
  [.write .command Command.seek.code, .write .command Command.write.code, .timeout]

theorem not_transfers_move_what_is_asked : ¬Runs.Along (step noCd) (Keeps noCd) discsOfOnes writeAfterSeek := by
  simp only [writeAfterSeek, Runs.along_cons, Runs.along_nil, and_true, not_and]
  rintro - - (⟨-, hsends⟩ | himages)
  · exact hsends rfl
  · have hbyte := congrArg (fun f => (f false).map fun disc => disc.bytes 0) himages
    exact absurd hbyte (by decide +kernel)

/-! ## What is written is read back -/

/-- **A READ gets what the last WRITE left.**  After a WRITE, and whatever is done then that neither strays nor sends
data: of the sectors that were sent in full a READ gets the bytes that were sent, and of the others those of the image
before. -/
theorem written_sectors_read_back (cd : Cd) {s : IdeState} {disc : Disc} (hasked : Asked s disc)
    (hcounted : Counted s disc) (htimer : s.idecallback = 0) (hpacket : s.packetstatus ≠ 4 ∧ s.packetstatus ≠ 5)
    {as bs cs : List Access}
    (hwrites : Runs.Along (step cd) Writes (step cd s (.write .command Command.write.code)) as)
    (hlength : (sent as).length ≤ 512 * min (wanted s) (existing s disc + 1))
    (hbetween : Runs.Along (step cd) (fun s a => ¬Stray s a ∧ sends a = [])
      (Runs.exec (step cd) s (.write .command Command.write.code :: as)) bs) :
    let k := min ((sent as).length / 512) (existing s disc)
    let u := Runs.exec (step cd) (Runs.exec (step cd) s (.write .command Command.write.code :: as)) bs
    let got := received cd (step cd u (.write .command Command.read.code)) cs
    u.reset = false → u.isCdrom = false → u.drive = s.drive →
      Counted u (disc.overwrite s.cur.sectorIndex k (sent as)) →
      Runs.Along (step cd) Reads (step cd u (.write .command Command.read.code)) cs →
      got.length ≤ 512 * existing u (disc.overwrite s.cur.sectorIndex k (sent as)) →
        (∀ i < got.length, got.getD i 0 =
          if 512 * s.cur.sectorIndex ≤ 512 * u.cur.sectorIndex + i ∧
              512 * u.cur.sectorIndex + i < 512 * (s.cur.sectorIndex + k) then
            (sent as).getD (512 * u.cur.sectorIndex + i - 512 * s.cur.sectorIndex) 0
          else disc.bytes (512 * u.cur.sectorIndex + i)) ∧
        (u.cur.sectorIndex = s.cur.sectorIndex → got.length ≤ 512 * k → got = (sent as).take got.length) := by
  intro k u got hreset hcd hdrive hcounted' hreads hroom
  have hput := Put.run hasked hcounted as [] _ (put_command cd hasked hcounted htimer hpacket) hwrites
    (by rw [List.length_nil, Nat.zero_add]; exact hlength)
  rw [List.nil_append] at hput
  have himages : images u = images (Runs.exec (step cd) s (.write .command Command.write.code :: as)) := by
    refine Runs.exec_inv (I := fun t => images t = _) (fun t a ht ha => ?_) bs _ rfl hbetween
    obtain ⟨-, hsends⟩ | hkept : Keeps cd t a := keeps_of_not_stray ha.1
    · exact absurd ha.2 hsends
    · exact hkept.trans ht
  have hasked' : Asked u (disc.overwrite s.cur.sectorIndex k (sent as)) := by
    refine ⟨hreset, hcd, ?_⟩
    rw [IdeState.cur, hdrive]
    exact (congrFun himages s.drive).trans hput.writtenTo.image
  obtain ⟨hbytes, -⟩ := Got.run hasked' hcounted' cs 0 _ (got_command hasked' hcounted') hreads
    (by rw [Nat.zero_add]; exact hroom)
  have hgot : ∀ i < got.length, got.getD i 0 =
      (disc.overwrite s.cur.sectorIndex k (sent as)).bytes (512 * u.cur.sectorIndex + i) := by
    intro i hi
    change got = bytesFrom _ _ got.length at hbytes
    rw [hbytes, bytesFrom]
    simp [List.getD, hi]
  refine ⟨hgot, fun hindex hwhole => List.ext_getElem ?_ fun i hi hi' => ?_⟩
  · rw [List.length_take]
    omega
  · have hone : got.getD i 0 = (sent as).getD (512 * u.cur.sectorIndex + i - 512 * s.cur.sectorIndex) 0 :=
      (hgot i hi).trans (if_pos (by omega))
    rw [hindex, Nat.add_sub_cancel_left, List.getD_eq_getElem _ _ hi, List.getD_eq_getElem _ _ (by omega)] at hone
    rw [hone, List.getElem_take]

def sectorOfSevens : List Access := List.replicate 512 (.writeByte 7)

def firstAgain : List Access := [.write .secount 1, .write .sector 1]

theorem written_sectors_read_back_sevens :
    let written := Runs.exec (step noCd) discsOfOnes (.write .command Command.write.code :: sectorOfSevens)
    let got := received noCd (step noCd (Runs.exec (step noCd) written firstAgain) (.write .command Command.read.code))
      firstBytes
    got = (sent sectorOfSevens).take got.length := by
  have hwrites : Runs.Along (step noCd) Writes (step noCd discsOfOnes (.write .command Command.write.code))
      sectorOfSevens := by
    refine Runs.along_of_forall fun a ha t => ?_
    rw [List.eq_of_mem_replicate ha]
    trivial
  have hsent : (sent sectorOfSevens).length = 512 := by decide +kernel
  have hbetween : Runs.Along (step noCd) (fun s a => ¬Stray s a ∧ sends a = [])
      (Runs.exec (step noCd) discsOfOnes (.write .command Command.write.code :: sectorOfSevens)) firstAgain := by
    simp only [firstAgain, Runs.along_cons, Runs.along_nil, and_true]
    exact ⟨⟨id, rfl⟩, id, rfl⟩
  have hasked : Asked discsOfOnes ⟨fun _ => 1, 4096⟩ := ⟨rfl, rfl, rfl⟩
  refine (written_sectors_read_back noCd hasked
    ⟨by decide, by decide, by decide⟩ rfl (by decide) hwrites (by rw [hsent]; decide) hbetween (by decide +kernel)
    (by decide +kernel) (by decide +kernel) ?_ ?_ ?_).2 (by decide +kernel) ?_
  · exact ⟨by decide +kernel, by decide +kernel, by decide +kernel⟩
  · simp only [firstBytes, Runs.along_cons, Runs.along_nil, and_true]
    refine ⟨?_, trivial, trivial⟩
    unfold Reads
    decide +kernel
  · decide +kernel
  · decide +kernel

end RpcEmu.Ide
