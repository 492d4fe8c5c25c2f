import RpcEmu.Lib.Stream

/-!
# The header of a snapshot

`write_header` of `savestate.c` and its two readers: `check_header`, which decides whether a snapshot
fits the running machine, and `state_get_machine_name`, which only wants the name.

* **Version 6** added a word to the header, for the graphics card.  `check_header` reads it and
  `state_get_machine_name` does not know of it: it skips eight words where the header has nine, and
  takes the graphics card's word for the length of the name.
* `checkHeader_reads` says that a machine accepts the header it wrote, and
  `stateGetMachineName_empty` that the name comes back empty whatever it was.
-/

namespace RpcEmu.Snapshot

open Effects Streams

/-- `SNAPSHOT_MAGIC`: `RPCESTAT`. -/
def snapshotMagic : List UInt8 := [82, 80, 67, 69, 83, 84, 65, 84]

def snapshotVersion : UInt32 := 9

def snapshotVersionMin : UInt32 := 4

def snapshotVersionRawRomCrc : UInt32 := 5

def snapshotVersionGfxcard : UInt32 := 6

structure Config where
  name : List UInt8
  name_nonzero : ∀ b ∈ name, b ≠ 0
  model : UInt32
  memSize : UInt32
  vramSize : UInt32
  romLoadedSize : UInt32
  romLoadedCrc : UInt32
  dynarec : Bool
  cdromEnabled : Bool
  cdromType : UInt32
  gfxcardEnabled : Bool

/-- `x ? 1 : 0`. -/
def boolWord (b : Bool) : UInt32 := if b then 1 else 0

def cString (bs : List UInt8) : List UInt8 := bs.takeWhile (· ≠ 0)

def Config.storedName (config : Config) : List UInt8 := config.name.take 255

def writeHeader (config : Config) : List UInt8 :=
  snapshotMagic ++ (u32Bytes snapshotVersion ++ (u32Bytes config.model ++
    (u32Bytes config.memSize ++ (u32Bytes config.vramSize ++ (u32Bytes config.romLoadedSize ++
    (u32Bytes config.romLoadedCrc ++ (u32Bytes (boolWord config.dynarec) ++
    (u32Bytes (boolWord config.cdromEnabled) ++ (u32Bytes config.cdromType ++
    (u32Bytes (boolWord config.gfxcardEnabled) ++
    (u16Bytes (.ofNat config.storedName.length) ++ config.storedName)))))))))))

/-! ## Checking a header -/

inductive HeaderError
  | notSuspendFile
  | otherVersion (version : UInt32)
  | truncated
  | otherModel (theirs ours : List UInt8)
  | otherMemory (theirs : List UInt8) (memSize vramSize : UInt32) (ours : List UInt8)
      (ourMemSize ourVramSize : UInt32)
  | otherRom (theirs ours : List UInt8)
  | otherCdrom (theirs ours : List UInt8)
  | otherGfxcard (theirs : List UInt8) (has : Bool) (ours : List UInt8)
  deriving DecidableEq, Repr

structure Header where
  model : UInt32
  memSize : UInt32
  vramSize : UInt32
  romSize : UInt32
  romCrc : UInt32
  cdromEnabled : UInt32
  cdromType : UInt32
  gfxcardEnabled : UInt32
  name : List UInt8

/-- `(unnamed)`. -/
def unnamed : List UInt8 := [40, 117, 110, 110, 97, 109, 101, 100, 41]

def readGfxcard (config : Config) (version : UInt32) : Read UInt32 :=
  if snapshotVersionGfxcard ≤ version then readU32 else pure (boolWord config.gfxcardEnabled)

def readName : Read (List UInt8) := do
  let nameLen ← readU16
  let name ← bytes (min nameLen.toNat 255)
  skip (nameLen.toNat - min nameLen.toNat 255)
  pure (if cString name = [] then unnamed else cString name)

def readFields (config : Config) (version : UInt32) : Read Header := do
  let model ← readU32
  let memSize ← readU32
  let vramSize ← readU32
  let romSize ← readU32
  let romCrc ← readU32
  let _flags ← readU32
  let cdromEnabled ← readU32
  let cdromType ← readU32
  let gfxcardEnabled ← readGfxcard config version
  let name ← readName
  pure ⟨model, memSize, vramSize, romSize, romCrc, cdromEnabled, cdromType, gfxcardEnabled, name⟩

def checkFields (config : Config) (version : UInt32) (h : Header) : Except HeaderError UInt32 :=
  if h.model ≠ config.model then .error (.otherModel h.name config.name)
  else if h.memSize ≠ config.memSize ∨ h.vramSize ≠ config.vramSize then
    .error (.otherMemory h.name h.memSize h.vramSize config.name config.memSize config.vramSize)
  else if h.romSize ≠ config.romLoadedSize ∨
      (snapshotVersionRawRomCrc ≤ version ∧ h.romCrc ≠ config.romLoadedCrc) then
    .error (.otherRom h.name config.name)
  else if h.cdromEnabled ≠ boolWord config.cdromEnabled ∨
      (h.cdromEnabled ≠ 0 ∧ h.cdromType ≠ config.cdromType) then
    .error (.otherCdrom h.name config.name)
  else if h.gfxcardEnabled ≠ boolWord config.gfxcardEnabled then
    .error (.otherGfxcard h.name (h.gfxcardEnabled ≠ 0) config.name)
  else .ok version

def checkedFields (config : Config) (version : UInt32) (h : Header) :
    Read (Except HeaderError UInt32) := do
  let error ← failed
  pure (if error then .error .truncated else checkFields config version h)

/-- Read and validate a header against the running machine.  The result is the version, which the
chunk loaders can ask for. -/
def checkHeader (config : Config) : Read (Except HeaderError UInt32) := do
  let magic ← bytes 8
  let error ← failed
  if error || magic ≠ snapshotMagic then pure (.error .notSuspendFile)
  else do
    let version ← readU32
    if version < snapshotVersionMin ∨ snapshotVersion < version then
      pure (.error (.otherVersion version))
    else do
      let h ← readFields config version
      checkedFields config version h

/-! ## Asking for the name -/

/-- The name in a buffer of `nameLen` bytes, and whether it was found. -/
def readMachineName (nameLen : Nat) : Read (Bool × List UInt8) := do
  let magic ← bytes 8
  let version ← readU32
  let error ← failed
  if error = false ∧ magic = snapshotMagic ∧ snapshotVersionMin ≤ version ∧
      version ≤ snapshotVersion then do
    -- eight words, as there were before the graphics card had one
    skip (8 * 4)
    let storedLen ← readU16
    let copy := if 0 < nameLen ∧ storedLen.toNat < nameLen - 1 then storedLen.toNat
      else (nameLen - 1) % 2 ^ 16
    let name ← bytes copy
    let error ← failed
    pure (!error, cString name)
  else pure (false, [])

def stateGetMachineName (file : Option (List UInt8)) (nameLen : Nat) : Bool × List UInt8 :=
  match file with
  | none => (false, [])
  | some data => ((readMachineName nameLen).run handler (Stream.opened data)).1

/-! ## Reading back what was written -/

lemma length_storedName (config : Config) : config.storedName.length ≤ 255 := by
  rw [Config.storedName, List.length_take]
  omega

lemma toNat_storedLength (config : Config) :
    (UInt16.ofNat config.storedName.length).toNat = config.storedName.length := by
  have h := length_storedName config
  rw [UInt16.toNat_ofNat']
  exact Nat.mod_eq_of_lt (by omega)

def Config.header (config : Config) : Header :=
  ⟨config.model, config.memSize, config.vramSize, config.romLoadedSize, config.romLoadedCrc,
    boolWord config.cdromEnabled, config.cdromType, boolWord config.gfxcardEnabled,
    if cString config.storedName = [] then unnamed else cString config.storedName⟩

lemma readName_reads (config : Config) :
    Reads readName (u16Bytes (.ofNat config.storedName.length) ++ config.storedName)
      config.header.name := by
  have hmin : min (UInt16.ofNat config.storedName.length).toNat 255 = config.storedName.length := by
    rw [toNat_storedLength]
    exact Nat.min_eq_left (length_storedName config)
  refine (Reads.u16 _).bind ?_
  rw [hmin, toNat_storedLength, Nat.sub_self]
  exact (Reads.bytes _).last ((Reads.skip []).last (Reads.pure _))

def Config.fieldBytes (config : Config) : List UInt8 :=
  u32Bytes config.model ++ (u32Bytes config.memSize ++ (u32Bytes config.vramSize ++
    (u32Bytes config.romLoadedSize ++ (u32Bytes config.romLoadedCrc ++
    (u32Bytes (boolWord config.dynarec) ++ (u32Bytes (boolWord config.cdromEnabled) ++
    (u32Bytes config.cdromType ++ (u32Bytes (boolWord config.gfxcardEnabled) ++
    (u16Bytes (.ofNat config.storedName.length) ++ config.storedName)))))))))

lemma readFields_reads (config theirs : Config) :
    Reads (readFields config snapshotVersion) theirs.fieldBytes theirs.header := by
  have hgfx : Reads (readGfxcard config snapshotVersion)
      (u32Bytes (boolWord theirs.gfxcardEnabled)) (boolWord theirs.gfxcardEnabled) := by
    rw [readGfxcard, if_pos (by decide)]
    exact Reads.u32 _
  refine (Reads.u32 _).bind ((Reads.u32 _).bind ((Reads.u32 _).bind ((Reads.u32 _).bind
    ((Reads.u32 _).bind ((Reads.u32 _).bind ((Reads.u32 _).bind ((Reads.u32 _).bind
    (hgfx.bind ?_))))))))
  exact (readName_reads theirs).last (Reads.pure _)

theorem checkHeader_reads (config theirs : Config) :
    Reads (checkHeader config) (writeHeader theirs)
      (checkFields config snapshotVersion theirs.header) := by
  refine (Reads.bytes snapshotMagic).bind (Reads.failed.bind ?_)
  rw [if_neg (by decide)]
  refine (Reads.u32 _).bind ?_
  rw [if_neg (by decide)]
  exact (readFields_reads config theirs).last (Reads.failed.last (Reads.pure _))

/-! ## Cut short, a header is refused -/

lemma readName_needs (config : Config) :
    Needs readName (u16Bytes (.ofNat config.storedName.length) ++ config.storedName) := by
  have hmin : min (UInt16.ofNat config.storedName.length).toNat 255 = config.storedName.length := by
    rw [toNat_storedLength]
    exact Nat.min_eq_left (length_storedName config)
  refine Needs.bind (Reads.u16 _) (Needs.u16 _) ?_
  rw [hmin]
  exact (Needs.bytes config.storedName).first

lemma readU32_needs {α : Type} {k : UInt32 → Read α} {v : UInt32} {bs : List UInt8}
    (h : Needs (k v) bs) : Needs (readU32 >>= k) (u32Bytes v ++ bs) :=
  Needs.bind (Reads.u32 v) (Needs.u32 v) h

lemma readFields_needs (config theirs : Config) :
    Needs (readFields config snapshotVersion) theirs.fieldBytes := by
  have hgfx : readGfxcard config snapshotVersion = readU32 := by
    rw [readGfxcard, if_pos (by decide)]
  rw [readFields, hgfx]
  refine readU32_needs (readU32_needs (readU32_needs (readU32_needs (readU32_needs (readU32_needs
    (readU32_needs (readU32_needs (readU32_needs ?_))))))))
  exact (readName_needs theirs).first

/-- **A header cut short** is an error, to any machine. -/
lemma checkHeader_needs (ours theirs : Config) : Needs (checkHeader ours) (writeHeader theirs) := by
  refine Needs.bind (Reads.bytes snapshotMagic) (Needs.bytes snapshotMagic) ?_
  refine Needs.after Reads.failed ?_
  rw [if_neg (by decide)]
  refine readU32_needs ?_
  rw [if_neg (by decide)]
  exact (readFields_needs ours theirs).first

lemma checkHeader_clean {config : Config} {f f' : Stream} {v : UInt32}
    (h : (checkHeader config).run handler f = (.ok v, f')) : f'.error = false := by
  rw [checkHeader, Prog.run_bind, Prog.run_bind] at h
  split_ifs at h with h1
  · cases h
  · rw [Prog.run_bind] at h
    split_ifs at h with h2
    · cases h
    · rw [Prog.run_bind] at h
      generalize (Prog.run handler readU32 _).1 = version at h
      generalize Prog.run handler (readFields config version) _ = out at h
      cases he : out.2.error with
      | true =>
        have hc : Prog.run handler (checkedFields config version out.1) out.2 =
            (.error .truncated, out.2) := by
          show ((if out.2.error then _ else _), out.2) = _
          rw [he]
          rfl
        rw [hc] at h
        cases h
      | false =>
        have hc : (Prog.run handler (checkedFields config version out.1) out.2).2 = out.2 := rfl
        rw [h] at hc
        rw [show f' = out.2 from hc]
        exact he

lemma checkFields_version {config : Config} {version v : UInt32} {h : Header}
    (hv : checkFields config version h = .ok v) : v = version := by
  rw [checkFields] at hv
  split_ifs at hv
  exact (Except.ok.inj hv).symm

lemma checkFields_own (config : Config) :
    checkFields config snapshotVersion config.header = .ok snapshotVersion := by
  simp [checkFields, Config.header]

/-! ## The name comes back empty -/

/-- The eight words that `state_get_machine_name` skips. -/
def Config.skippedWords (config : Config) : List UInt8 :=
  u32Bytes config.model ++ (u32Bytes config.memSize ++ (u32Bytes config.vramSize ++
    (u32Bytes config.romLoadedSize ++ (u32Bytes config.romLoadedCrc ++
    (u32Bytes (boolWord config.dynarec) ++ (u32Bytes (boolWord config.cdromEnabled) ++
    u32Bytes config.cdromType))))))

def Config.lengthRead (config : Config) : UInt16 := if config.gfxcardEnabled then 1 else 0

def Config.nameRead (config : Config) (nameLen : Nat) : Nat :=
  if 0 < nameLen ∧ config.lengthRead.toNat < nameLen - 1 then config.lengthRead.toNat
  else (nameLen - 1) % 2 ^ 16

lemma Config.nameRead_le (config : Config) (nameLen : Nat) : config.nameRead nameLen ≤ 1 := by
  have hl : config.lengthRead.toNat ≤ 1 := by
    rw [lengthRead]
    split <;> decide
  rw [nameRead]
  split_ifs with h
  · exact hl
  · exact Nat.le_trans (Nat.mod_le _ _) (by omega)

lemma writeHeader_split (config : Config) :
    writeHeader config = snapshotMagic ++ (u32Bytes snapshotVersion ++ (config.skippedWords ++
      (u16Bytes config.lengthRead ++ ([0, 0] ++
        (u16Bytes (.ofNat config.storedName.length) ++ config.storedName))))) := by
  have hgfx : u32Bytes (boolWord config.gfxcardEnabled) = u16Bytes config.lengthRead ++ [0, 0] := by
    rw [Config.lengthRead]
    cases config.gfxcardEnabled <;> rfl
  rw [writeHeader, hgfx]
  simp only [Config.skippedWords, List.append_assoc]

lemma readMachineName_reads (config : Config) (nameLen : Nat) :
    Reads (readMachineName nameLen)
      (snapshotMagic ++ (u32Bytes snapshotVersion ++ (config.skippedWords ++
        (u16Bytes config.lengthRead ++ List.replicate (config.nameRead nameLen) 0)))) (true, []) := by
  have hzeros : cString (List.replicate (config.nameRead nameLen) 0) = [] := by
    have h := config.nameRead_le nameLen
    interval_cases config.nameRead nameLen <;> rfl
  have hname : Reads (do
      let name ← bytes (config.nameRead nameLen)
      let error ← failed
      pure (!error, cString name))
      (List.replicate (config.nameRead nameLen) 0 ++ ([] ++ [])) (true, []) := by
    have hb := Reads.bytes (List.replicate (config.nameRead nameLen) 0)
    rw [List.length_replicate] at hb
    refine hb.bind (Reads.failed.bind ?_)
    rw [hzeros]
    exact Reads.pure _
  rw [List.append_nil, List.append_nil] at hname
  refine (Reads.bytes snapshotMagic).bind ((Reads.u32 _).bind (Reads.failed.bind ?_))
  rw [if_pos (by decide)]
  exact (Reads.skip config.skippedWords).bind ((Reads.u16 _).bind hname)

/-- **Whatever a machine is called, its snapshot has no name** to `state_get_machine_name`. -/
theorem stateGetMachineName_empty (config : Config) (chunks : List UInt8) (nameLen : Nat) :
    stateGetMachineName (some (writeHeader config ++ chunks)) nameLen = (true, []) := by
  have hzeros : ([0, 0] : List UInt8) = List.replicate (config.nameRead nameLen) 0 ++
      List.replicate (2 - config.nameRead nameLen) 0 := by
    have h := config.nameRead_le nameLen
    interval_cases config.nameRead nameLen <;> rfl
  have hah : ∃ rest, (Stream.opened (writeHeader config ++ chunks)).ahead =
      (snapshotMagic ++ (u32Bytes snapshotVersion ++ (config.skippedWords ++
        (u16Bytes config.lengthRead ++ List.replicate (config.nameRead nameLen) 0)))) ++ rest := by
    refine ⟨List.replicate (2 - config.nameRead nameLen) 0 ++
      (u16Bytes (.ofNat config.storedName.length) ++ config.storedName) ++ chunks, ?_⟩
    show writeHeader config ++ chunks = _
    rw [writeHeader_split, hzeros]
    simp only [List.append_assoc]
  obtain ⟨rest, hah⟩ := hah
  rw [stateGetMachineName, readMachineName_reads config nameLen _ _ rfl hah]

/-- **The header names its machine** to both readers: `state_get_machine_name` gives what fits of the
name, and `check_header` accepts the header and leaves the file at the first chunk. -/
def NamesItsMachine (config : Config) (chunks : List UInt8) (nameLen : Nat) : Prop :=
  stateGetMachineName (some (writeHeader config ++ chunks)) nameLen =
      (true, config.name.take (min (nameLen - 1) 255)) ∧
    ∃ s, (checkHeader config).run handler (Stream.opened (writeHeader config ++ chunks)) =
        (.ok snapshotVersion, s) ∧ s.error = false ∧ s.ahead = chunks

lemma checkHeader_own (config : Config) (chunks : List UInt8) :
    ∃ s, (checkHeader config).run handler (Stream.opened (writeHeader config ++ chunks)) =
      (.ok snapshotVersion, s) ∧ s.error = false ∧ s.ahead = chunks := by
  have hah : (Stream.opened (writeHeader config ++ chunks)).ahead = writeHeader config ++ chunks :=
    rfl
  have h := checkHeader_reads config config _ chunks rfl hah
  rw [checkFields_own] at h
  exact ⟨_, h, rfl, ahead_move hah⟩

/-- **Where the header names its machine**: only where there is nothing to name, or no room for it. -/
theorem namesItsMachine_iff (config : Config) (chunks : List UInt8) (nameLen : Nat)
    (hn : 1 ≤ nameLen) :
    NamesItsMachine config chunks nameLen ↔ config.name = [] ∨ nameLen = 1 := by
  have hown := checkHeader_own config chunks
  rw [NamesItsMachine, stateGetMachineName_empty]
  constructor
  · rintro ⟨h, -⟩
    have htake : config.name.take (min (nameLen - 1) 255) = [] := ((Prod.mk.inj h).2).symm
    rcases List.take_eq_nil_iff.1 htake with h0 | h0
    · right
      omega
    · exact .inl h0
  · intro h
    refine ⟨?_, hown⟩
    rcases h with h | h
    · rw [h, List.take_nil]
    · rw [h]
      rfl

/-- A machine called `A`. -/
def namedMachine : Config where
  name := [65]
  name_nonzero := by decide +kernel
  model := 0
  memSize := 64
  vramSize := 2
  romLoadedSize := 0x400000
  romLoadedCrc := 0x12345678
  dynarec := true
  cdromEnabled := true
  cdromType := 1
  gfxcardEnabled := true

theorem namesItsMachine_no_room :
    NamesItsMachine namedMachine [] 1 ↔ namedMachine.name = [] ∨ 1 = 1 :=
  namesItsMachine_iff namedMachine [] 1 (by decide)

theorem named_machine_lost : ¬ NamesItsMachine namedMachine [] 256 := by
  rintro ⟨h, -⟩
  revert h
  decide

end RpcEmu.Snapshot
