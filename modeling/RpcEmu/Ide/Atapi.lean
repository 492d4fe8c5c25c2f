import RpcEmu.Ide.Controller

/-!
# The CD-ROM behind the IDE bus

`atapicommand` and `callreadcd` of `ide.c`: what a packet does to the registers, the buffer and the place in it.  What
drives the disc is an `Atapi`; `isoAtapi` is the one of `cdrom-iso.c`, and that of `cdrom-ioctl.c` answers alike.

Where the program ends with a message the view is left as it is.
-/

namespace RpcEmu.Ide

/-- `GPCMD_...`. -/
inductive PacketCommand where
  | testUnitReady | requestSense | inquiry | startStopUnit | seek | readSubchannel | readTocPmaAtip | readHeader
  | pauseResume | modeSelect10 | modeSense10 | playAudio12 | setSpeed | readCd
  deriving DecidableEq, Repr

def PacketCommand.code : PacketCommand → UInt8
  | testUnitReady => 0x00 | requestSense => 0x03 | inquiry => 0x12 | startStopUnit => 0x1b | seek => 0x2b
  | readSubchannel => 0x42 | readTocPmaAtip => 0x43 | readHeader => 0x44 | pauseResume => 0x4b | modeSelect10 => 0x55
  | modeSense10 => 0x5a | playAudio12 => 0xa5 | setSpeed => 0xbb | readCd => 0xbe

def packetCommands : List PacketCommand :=
  [.testUnitReady, .requestSense, .inquiry, .startStopUnit, .seek, .readSubchannel, .readTocPmaAtip, .readHeader,
    .pauseResume, .modeSelect10, .modeSense10, .playAudio12, .setSpeed, .readCd]

def PacketCommand.ofCode (code : UInt8) : Option PacketCommand :=
  packetCommands.find? fun c => c.code = code

/-- `ATAPI`, as far as it answers: is it ready, and if not, does it say that the disc has changed; the table of
contents for a first track, in minutes or blocks; the subchannel; and a sector. -/
structure Atapi where
  ready : Bool
  changed : Bool
  readtoc : UInt8 → Bool → List UInt8
  getcurrentsubchannel : Bool → (Nat → UInt8) → UInt8 × (Nat → UInt8)
  readsector : Int → (Nat → UInt8) → Nat → UInt8
  /-- A table has few tracks. -/
  readtoc_le : ∀ starttrack msf, (readtoc starttrack msf).length ≤ 0xffff

/-! ## Images -/

def tocAddress (msf : Bool) (block : Nat) : List UInt8 :=
  if msf then
    let frame := block + 150
    [0, UInt8.ofNat (frame / 75 / 60), UInt8.ofNat (frame / 75 % 60), UInt8.ofNat (frame % 75)]
  else [UInt8.ofNat (block >>> 24), UInt8.ofNat (block >>> 16), UInt8.ofNat (block >>> 8), UInt8.ofNat block]

/-- `iso_readtoc`, of a disc of so many blocks. -/
def isoReadtoc (blocks : Nat) (starttrack : UInt8) (msf : Bool) : List UInt8 :=
  let tracks := (if starttrack ≤ 1 then [0, 0x14, 1, 0] ++ tocAddress msf 0 else []) ++
    ([0, 0x16, 0xaa, 0] ++ tocAddress msf blocks)
  [0, UInt8.ofNat tracks.length, 1, 1] ++ tracks

lemma length_tocAddress (msf : Bool) (block : Nat) : (tocAddress msf block).length = 4 := by
  unfold tocAddress
  split <;> rfl

lemma length_isoReadtoc_le (blocks : Nat) (starttrack : UInt8) (msf : Bool) :
    (isoReadtoc blocks starttrack msf).length ≤ 20 := by
  have hlen := length_tocAddress msf
  unfold isoReadtoc
  simp only [List.length_append, List.length_cons, List.length_nil, hlen]
  split
  · simp only [List.length_append, List.length_cons, List.length_nil, hlen]
    omega
  · simp only [List.length_nil]
    omega

/-- `iso_atapi`: with an image of so many blocks, or with none. -/
def isoAtapi (image : Option (Nat × (Nat → UInt8))) (discchanged : Bool) : Atapi where
  ready := image.isSome && !discchanged
  changed := image.isSome && discchanged
  readtoc starttrack msf := (image.map fun i => isoReadtoc i.1 starttrack msf).getD []
  getcurrentsubchannel _ b := (0, fun i => if i < 2048 then 0 else b i)
  readsector sector b := match image with
    | none => b
    | some (blocks, bytes) =>
      if 0 ≤ sector ∧ sector < blocks then fun i => if i < 2048 then bytes (sector.toNat * 2048 + i) else b i else b
  readtoc_le starttrack msf := by
    cases image with
    | none => exact Nat.zero_le _
    | some image => exact (length_isoReadtoc_le image.1 starttrack msf).trans (by decide)

/-! ## Packets -/

namespace PacketView

variable (v : PacketView)

def good : PacketView := { v with packetstatus := 2, idecallback := 50 }

def answer (len : Nat) : PacketView :=
  { v with packetstatus := 3, cylinder := len, secount := 2, pos := 0, idecallback := 60, packlen := len }

def put (start : Nat) (bytes : List UInt8) : PacketView :=
  { v with buffer := fun i => if start ≤ i then bytes.getD (i - start) (v.buffer i) else v.buffer i }

/-- `memset` from the start on. -/
def clear (len : Nat) : PacketView := { v with buffer := fun i => if i < len then 0 else v.buffer i }

def number (start len : Nat) : Nat :=
  (List.range len).foldl (fun n i => n * 256 + (v.buffer (start + i)).toNat) 0

end PacketView

/-- `atapi_notready`. -/
def atapiNotready (v : PacketView) : PacketView :=
  { v with
    atastat := readyStat ||| errStat
    error := if v.discchanged then (0x60 ||| abrtErr) ||| 0x08 else 0x20 ||| abrtErr
    senseKey := if v.discchanged then 6 else 2
    asc := if v.discchanged then 0x28 else 0x3a
    discchanged := false, packetstatus := 0x80, idecallback := 50 }

def ifReady (d : Atapi) (v : PacketView) (f : PacketView → PacketView) : PacketView :=
  if d.ready then f v else atapiNotready { v with discchanged := v.discchanged || d.changed }

/-- `ide_atapi_mode_sense`'s pages. -/
def modePages : List UInt8 :=
  [0x01, 6, 0, 3, 0, 0, 0, 0] ++ [0x0d, 6, 0, 1, 0, 60, 0, 75] ++
    [0x2a, 0x12, 0, 0, 1, 0, 0, 0, 2, 194, 0, 2, 0, 0, 2, 194, 0, 0, 0, 0]

/-- `GPCMD_REQUEST_SENSE`. -/
def requestSense (v : PacketView) : PacketView :=
  { ((v.clear 512).put 0 [0x70, 0, v.senseKey, 0, 0, 0, 0, 10, 0, 0, 0, 0, v.asc, 0]).answer 18 with
    senseKey := 0, asc := 0 }

/-- `GPCMD_READ_TOC_PMA_ATIP`. -/
def readToc (d : Atapi) (v : PacketView) : PacketView :=
  if 0x80 ≤ v.buffer 9 then v
  else
    let toc := d.readtoc (v.buffer 6) (v.buffer 1 &&& 2 != 0)
    (v.put 0 toc).answer toc.length

/-- `GPCMD_READ_CD`. -/
def readCd (d : Atapi) (v : PacketView) : PacketView :=
  if v.buffer 9 ≠ 0x10 then v
  else
    let cdlen : Int := v.number 6 3 - 1
    let cdpos : Int := Int.bmod (v.number 2 4) (2 ^ 32)
    { v.answer 2048 with
      buffer := d.readsector cdpos v.buffer, cdpos := cdpos + 1, cdlen, packetstatus := if 0 ≤ cdlen then 6 else 3 }

/-- `GPCMD_READ_HEADER`: the address goes four places on, from the first byte to the last. -/
def readHeader (v : PacketView) : PacketView :=
  if v.buffer 1 &&& 2 ≠ 0 then v
  else (v.put 0 [1, 0, 0, 0, v.buffer 2, v.buffer 3, v.buffer 2, v.buffer 3]).answer 8

/-- `GPCMD_MODE_SENSE_10`. -/
def modeSense (v : PacketView) : PacketView :=
  if v.buffer 2 ≠ 0x3f then v
  else
    let len := 8 + modePages.length
    let v := ((v.clear (v.number 7 2)).put 2 [1]).put 8 modePages
    (v.put 0 [UInt8.ofNat (len / 256), UInt8.ofNat len]).answer len

/-- `GPCMD_MODE_SELECT_10`: the packet's data are still to come, or they are here. -/
def modeSelect (v : PacketView) : PacketView :=
  if v.packetstatus = 5 then { v with atastat := 0, irq := true, packetstatus := 0xff, pos := 0 }
  else
    let len := v.number 7 2
    { v with packetstatus := 4, cylinder := len, secount := 2, pos := 0, idecallback := 6, packlen := len }

/-- `GPCMD_READ_SUBCHANNEL`. -/
def readSubchannel (d : Atapi) (v : PacketView) : PacketView :=
  if v.buffer 3 ≠ 1 then v
  else
    let msf := v.buffer 1 &&& 2 != 0
    let v := v.put 0 [0, 0, 0, 0, 1]
    let (status, sub) := d.getcurrentsubchannel msf fun i => v.buffer (5 + i)
    let v := { v with buffer := fun i => if 5 ≤ i then sub (i - 5) else v.buffer i }
    (v.put 1 [status]).answer 16

/-- `GPCMD_INQUIRY`. -/
def inquiry (v : PacketView) : PacketView :=
  let text (s : String) (n : Nat) : List UInt8 :=
    ((s.toList ++ List.replicate n ' ').take n).map fun c => UInt8.ofNat c.toNat
  (v.put 0 ([5, 0, 0, 0, 31, 0, 0, 0] ++ text "RPCEmu" 8 ++ text "RPCEmuCD" 16 ++ text "v1.0" 4)).answer 36

def illegalRequest (v : PacketView) : PacketView :=
  { v with
    atastat := readyStat ||| errStat
    error := if v.discchanged then (0x50 ||| abrtErr) ||| 0x08 else 0x50 ||| abrtErr
    discchanged := false, senseKey := 5, asc := 0x20, packetstatus := 0x80, idecallback := 50 }

/-- `atapicommand`. -/
def atapicommand (d : Atapi) (v : PacketView) : PacketView :=
  match PacketCommand.ofCode (v.buffer 0) with
  | some .testUnitReady | some .playAudio12 | some .pauseResume | some .seek => ifReady d v PacketView.good
  | some .requestSense => requestSense v
  | some .setSpeed => v.good
  | some .readTocPmaAtip => ifReady d v (readToc d)
  | some .readCd => ifReady d v (readCd d)
  | some .readHeader => ifReady d v readHeader
  | some .modeSense10 => ifReady d v modeSense
  | some .modeSelect10 => ifReady d v modeSelect
  | some .readSubchannel => ifReady d v (readSubchannel d)
  | some .startStopUnit => if v.buffer 4 ≠ 2 ∧ v.buffer 4 ≠ 3 ∧ v.buffer 4 ≠ 0 then v else v.good
  | some .inquiry => inquiry v
  | none => illegalRequest v

/-- `callreadcd`. -/
def callreadcd (d : Atapi) (v : PacketView) : PacketView :=
  let v := { v with irq := false }
  if v.cdlen ≤ 0 then { v with packetstatus := 2, idecallback := 20 }
  else
    { v.answer 2048 with
      atastat := busyStat, buffer := d.readsector v.cdpos v.buffer, cdpos := v.cdpos + 1, cdlen := v.cdlen - 1
      packetstatus := 6 }

def Atapi.cd (d : Atapi) : Cd := ⟨atapicommand d, callreadcd d⟩

/-! ## Where a packet leaves the buffer -/

structure Place where
  pos : Nat
  packlen : Int
  packetstatus : UInt8

def PacketView.place (v : PacketView) : Place := ⟨v.pos, v.packlen, v.packetstatus⟩

/-- A step that is not of the data port: the place is where it was or at the start, no answer is longer than 65535
bytes, and the data of a packet are waited for from the start. -/
structure Placed (p q : Place) : Prop where
  pos : q.pos = p.pos ∨ q.pos ≤ 2
  packlen : p.packlen ≤ 0xffff → q.packlen ≤ 0xffff
  data : q.packetstatus = 4 → q.pos ≤ 2 ∨ p.packetstatus = 4 ∧ q.pos = p.pos ∧ q.packlen = p.packlen

variable {p q r : Place}

lemma Placed.refl (p : Place) : Placed p p := ⟨Or.inl rfl, id, fun h => Or.inr ⟨h, rfl, rfl⟩⟩

lemma Placed.trans (h : Placed p q) (h' : Placed q r) : Placed p r where
  pos := by
    rcases h'.pos with heq | hle
    · rw [heq]
      exact h.pos
    · exact Or.inr hle
  packlen hp := h'.packlen (h.packlen hp)
  data hr := by
    rcases h'.data hr with hle | ⟨hq, hpos, hlen⟩
    · exact Or.inl hle
    · rw [hpos, hlen]
      exact h.data hq

lemma Placed.phase (p : Place) {n : UInt8} (hne : n ≠ 4) : Placed p { p with packetstatus := n } :=
  ⟨Or.inl rfl, id, fun h => absurd h hne⟩

lemma Placed.start {len : Int} {n : UInt8} (hlen : len ≤ 0xffff) : Placed p ⟨0, len, n⟩ :=
  ⟨Or.inr (Nat.zero_le 2), fun _ => hlen, fun _ => Or.inl (Nat.zero_le 2)⟩

lemma Placed.rewound (p : Place) {pos : Nat} (hpos : pos ≤ 2) : Placed p { p with pos } :=
  ⟨Or.inr hpos, id, fun _ => Or.inl hpos⟩

lemma number_two_le (v : PacketView) (start : Nat) : v.number start 2 ≤ 0xffff := by
  have hhigh := (v.buffer start).toNat_lt
  have hlow := (v.buffer (start + 1)).toNat_lt
  have hnumber : v.number start 2 = (v.buffer start).toNat * 256 + (v.buffer (start + 1)).toNat := by
    simp [PacketView.number, List.range_succ]
  omega

lemma placed_ifReady {d : Atapi} {f : PacketView → PacketView} (hf : ∀ v, Placed v.place (f v).place)
    (v : PacketView) : Placed v.place (ifReady d v f).place := by
  unfold ifReady
  split
  · exact hf v
  · exact Placed.phase v.place (n := 0x80) (by decide)

lemma placed_answer (v : PacketView) {len : Nat} (hlen : len ≤ 0xffff) : Placed p (v.answer len).place := by
  have hlen : (len : Int) ≤ 0xffff := by exact_mod_cast hlen
  exact Placed.start hlen

lemma placed_readToc (d : Atapi) (v : PacketView) : Placed v.place (readToc d v).place := by
  unfold readToc
  split
  · exact Placed.refl _
  · exact placed_answer _ (d.readtoc_le _ _)

lemma placed_readCd (d : Atapi) (v : PacketView) : Placed v.place (readCd d v).place := by
  unfold readCd
  split
  · exact Placed.refl _
  · exact Placed.start (show (2048 : Int) ≤ 0xffff by decide)

lemma placed_readHeader (v : PacketView) : Placed v.place (readHeader v).place := by
  unfold readHeader
  split
  · exact Placed.refl _
  · exact placed_answer _ (by decide)

lemma placed_modeSense (v : PacketView) : Placed v.place (modeSense v).place := by
  unfold modeSense
  split
  · exact Placed.refl _
  · exact placed_answer _ (by decide)

lemma placed_modeSelect (v : PacketView) : Placed v.place (modeSelect v).place := by
  unfold modeSelect
  split
  · exact (Placed.rewound v.place (Nat.zero_le 2)).trans (Placed.phase _ (n := 0xff) (by decide))
  · have hlen : (v.number 7 2 : Int) ≤ 0xffff := by exact_mod_cast number_two_le v 7
    exact Placed.start hlen

lemma placed_readSubchannel (d : Atapi) (v : PacketView) : Placed v.place (readSubchannel d v).place := by
  unfold readSubchannel
  split
  · exact Placed.refl _
  · exact placed_answer _ (by decide)

lemma placed_good (v : PacketView) : Placed v.place v.good.place :=
  Placed.phase v.place (n := 2) (by decide)

lemma placed_illegalRequest (v : PacketView) : Placed v.place (illegalRequest v).place :=
  Placed.phase v.place (n := 0x80) (by decide)

/-- **What a packet does** to the place in the buffer. -/
lemma placed_atapicommand (d : Atapi) (v : PacketView) : Placed v.place (atapicommand d v).place := by
  unfold atapicommand
  split
  case h_5 => exact Placed.start (show (18 : Int) ≤ 0xffff by decide)
  case h_6 => exact placed_good v
  case h_7 => exact placed_ifReady (placed_readToc d) v
  case h_8 => exact placed_ifReady (placed_readCd d) v
  case h_9 => exact placed_ifReady placed_readHeader v
  case h_10 => exact placed_ifReady placed_modeSense v
  case h_11 => exact placed_ifReady placed_modeSelect v
  case h_12 => exact placed_ifReady (placed_readSubchannel d) v
  case h_13 =>
    split
    · exact Placed.refl _
    · exact placed_good v
  case h_14 => exact placed_answer _ (by decide)
  case h_15 => exact placed_illegalRequest v
  all_goals exact placed_ifReady placed_good v

lemma placed_callreadcd (d : Atapi) (v : PacketView) : Placed v.place (callreadcd d v).place := by
  unfold callreadcd
  dsimp only
  split
  · exact Placed.phase v.place (n := 2) (by decide)
  · exact Placed.start (show (2048 : Int) ≤ 0xffff by decide)

end RpcEmu.Ide
