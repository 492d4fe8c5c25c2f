import RpcEmu.Hostfs.SaveFile

/-!
# Bytes between the guest and its files

The requests of `hostfs.c` that move a file's bytes, or open, close or resize one.  All of them go through the one
`buffer`, which grows and is never cleared.

* A file is what a handle or a path comes to on the host, by a number; its contents are bytes.
* **`hostfsGetbytes`** reads what there is, and stores as many bytes as were asked for: what `fread` did not fill
  is what some earlier request left there.  `getbytes_same_iff` says where that shows.

A `long` has 64 bits.  What a handle's stream holds back is in the file at once.
-/

namespace RpcEmu.Hostfs

/-! ## The state -/

/-- `MAX_OPEN_FILES`. -/
def maxOpenFiles : Nat := 255

structure OpenFile where
  file : Nat
  /-- `open_file_update`. -/
  update : Bool
  deriving DecidableEq

/-- The host's files, `open_file` and `buffer`. -/
structure HostFs where
  contents : Nat → List UInt8
  openFile : Nat → Option OpenFile
  buffer : Buffer

def hostFsStart (contents : Nat → List UInt8) : HostFs := ⟨contents, fun _ => none, ⟨0, fun _ => 0⟩⟩

/-- `hostfs_get_open_file`. -/
def hostfsGetOpenFile (s : HostFs) (handle : UInt32) : Option OpenFile :=
  if handle < 1 ∨ UInt32.ofNat maxOpenFiles < handle then none else s.openFile handle.toNat

/-- `hostfs_open_allocate_index`: none for the 0. -/
def hostfsOpenAllocateIndex (s : HostFs) : Option Nat :=
  ((List.range maxOpenFiles).map (· + 1)).find? fun i => (s.openFile i).isNone

/-- What `fread` finds at an offset. -/
def readAt (c : List UInt8) (offset n : Nat) : List UInt8 := (c.drop offset).take n

def writeAt (c : List UInt8) (offset : Nat) (data : List UInt8) : List UInt8 :=
  if data = [] then c
  else c.take offset ++ List.replicate (offset - c.length) 0 ++ data ++ c.drop (offset + data.length)

def HostFs.put (s : HostFs) (file : Nat) (c : List UInt8) : HostFs :=
  { s with contents := Function.update s.contents file c }

/-- What `ARMul_StoreByte` is given. -/
abbrev Stores := List (UInt32 × UInt8)

def storeBytes (b : Buffer) (ptr : UInt32) (n : Nat) : Stores :=
  (List.range n).map fun i => (ptr + UInt32.ofNat i, b.bytes i)

/-! ## The requests -/

section Requests

variable (s : HostFs)

/-- `hostfs_open`, of an object that was found: none if there is no handle left. -/
def hostfsOpenFile (file : Nat) (mode : UInt32) (opens : Bool) : Option HostFs :=
  (hostfsOpenAllocateIndex s).map fun idx =>
    if (mode = 0 ∨ mode = 2) ∧ opens then
      { s with openFile := Function.update s.openFile idx (some ⟨file, mode == 2⟩) }
    else s

/-- `hostfs_getbytes`. -/
def hostfsGetbytes (handle ptr length offset : UInt32) (garbage : Nat → UInt8) : HostFs × Stores :=
  match hostfsGetOpenFile s handle with
  | none => (s, [])
  | some f =>
    let buffer := (s.buffer.ensure length.toNat garbage).fill (readAt (s.contents f.file) offset.toNat length.toNat)
    ({ s with buffer := buffer }, storeBytes buffer ptr length.toNat)

/-- `hostfs_putbytes`; `fwrite` takes so many bytes, and none where the file is not open for update. -/
def hostfsPutbytes (handle ptr length offset : UInt32) (mem : GuestMemory) (took : Nat) (garbage : Nat → UInt8) :
    HostFs :=
  match hostfsGetOpenFile s handle with
  | none => s
  | some f =>
    let buffer := (s.buffer.ensure length.toNat garbage).fill (loadBytes mem ptr length.toNat)
    let accepted := if f.update then (buffer.first length.toNat).take took else []
    { s.put f.file (writeAt (s.contents f.file) offset.toNat accepted) with buffer := buffer }

/-- `hostfs_args_3_write_file_extent`. -/
def hostfsArgs3WriteFileExtent (handle extent : UInt32) (truncates : Bool) : HostFs :=
  match hostfsGetOpenFile s handle with
  | none => s
  | some f =>
    let c := s.contents f.file
    if truncates then s.put f.file (c.take extent.toNat ++ List.replicate (extent.toNat - c.length) 0) else s

/-- The loop of `hostfs_args_8_write_zeros`: how many bytes are written in all. -/
def writeZeros (took : Nat → Nat) : Nat → Nat → Nat → Nat
  | 0, _, _ => 0
  | fuel + 1, call, length =>
    let bufferAmount := min length minimumBufferSize
    let written := min (took call) bufferAmount
    if length = 0 ∨ written < bufferAmount then written
    else written + writeZeros took fuel (call + 1) (length - written)

/-- `hostfs_args_8_write_zeros`. -/
def hostfsArgs8WriteZeros (handle offset length : UInt32) (took : Nat → Nat) (garbage : Nat → UInt8) : HostFs :=
  match hostfsGetOpenFile s handle with
  | none => s
  | some f =>
    let buffer := (s.buffer.ensure minimumBufferSize garbage).fill (List.replicate minimumBufferSize 0)
    let written := if f.update then writeZeros took (length.toNat + 1) 0 length.toNat else 0
    { s.put f.file (writeAt (s.contents f.file) offset.toNat (List.replicate written 0)) with buffer := buffer }

/-- `hostfs_close`. -/
def hostfsClose (handle : UInt32) : HostFs :=
  match hostfsGetOpenFile s handle with
  | none => s
  | some _ => { s with openFile := Function.update s.openFile handle.toNat none }

/-- `hostfs_write_file`, to the file that the new path comes to: none if it does not end in so many turns. -/
def hostfsWriteFileTo (file : Nat) (r : SaveRequest) (fuel : Nat) (garbage : Nat → UInt8) : Option HostFs :=
  (hostfsWriteFileLoop fuel r s.buffer garbage).map fun t =>
    { (if r.opened then s.put file t.accepted else s) with buffer := t.buffer }

/-- The loop of `hostfs_file_255_load_file`: what is left to read, and the buffer. -/
def loadBlocks : Nat → List UInt8 → Buffer → Buffer
  | 0, _, b => b
  | fuel + 1, rest, b =>
    let b := b.fill (rest.take minimumBufferSize)
    if minimumBufferSize ≤ rest.length then loadBlocks fuel (rest.drop minimumBufferSize) b else b

/-- `hostfs_file_255_load_file`: it stores the file and nothing else. -/
def hostfsFile255LoadFileFrom (file : Nat) (ptr : UInt32) (opens : Bool) (garbage : Nat → UInt8) : HostFs × Stores :=
  if opens then
    let c := s.contents file
    ({ s with buffer := loadBlocks (c.length + 1) c (s.buffer.ensure minimumBufferSize garbage) },
      c.zipIdx.map fun x => (ptr + UInt32.ofNat x.2, x.1))
  else (s, [])

end Requests

/-- A request, with what the host says to it and what `realloc` finds. -/
inductive Transfer
  | open (file : Nat) (mode : UInt32) (opens : Bool)
  | getBytes (handle ptr length offset : UInt32) (garbage : Nat → UInt8)
  | putBytes (handle ptr length offset : UInt32) (mem : GuestMemory) (took : Nat) (garbage : Nat → UInt8)
  | writeExtent (handle extent : UInt32) (truncates : Bool)
  | writeZeros (handle offset length : UInt32) (took : Nat → Nat) (garbage : Nat → UInt8)
  | close (handle : UInt32)
  | writeFile (file : Nat) (r : SaveRequest) (fuel : Nat) (garbage : Nat → UInt8)
  | loadFile (file : Nat) (ptr : UInt32) (opens : Bool) (garbage : Nat → UInt8)

def transfer (s : HostFs) : Transfer → Option HostFs
  | .open file mode opens => hostfsOpenFile s file mode opens
  | .getBytes handle ptr length offset garbage => some (hostfsGetbytes s handle ptr length offset garbage).1
  | .putBytes handle ptr length offset mem took garbage =>
    some (hostfsPutbytes s handle ptr length offset mem took garbage)
  | .writeExtent handle extent truncates => some (hostfsArgs3WriteFileExtent s handle extent truncates)
  | .writeZeros handle offset length took garbage => some (hostfsArgs8WriteZeros s handle offset length took garbage)
  | .close handle => some (hostfsClose s handle)
  | .writeFile file r fuel garbage => hostfsWriteFileTo s file r fuel garbage
  | .loadFile file ptr opens garbage => some (hostfsFile255LoadFileFrom s file ptr opens garbage).1

def transfers (s : HostFs) (history : List Transfer) : Option HostFs := history.foldlM transfer s

structure History (c : List UInt8) where
  files : Nat → List UInt8
  requests : List Transfer
  handle : UInt32
  left : HostFs
  file : OpenFile
  leaves : transfers (hostFsStart files) requests = some left
  isOpen : hostfsGetOpenFile left handle = some file
  has : left.contents file.file = c

/-- What `hostfs_getbytes` then stores. -/
def History.stores {c : List UInt8} (h : History c) (ptr length offset : UInt32) (garbage : Nat → UInt8) : Stores :=
  (hostfsGetbytes h.left h.handle ptr length offset garbage).2

/-! ## What is stored -/

section Stored

variable {c : List UInt8} {ptr length offset : UInt32}

lemma stores_eq (h : History c) (garbage : Nat → UInt8) :
    h.stores ptr length offset garbage =
      storeBytes ((h.left.buffer.ensure length.toNat garbage).fill (readAt c offset.toNat length.toNat)) ptr
        length.toNat := by
  unfold History.stores hostfsGetbytes
  rw [h.isOpen]
  dsimp only
  rw [h.has]

/-- **Within the file** nothing else is stored. -/
lemma stores_within (h : History c) (garbage : Nat → UInt8) (hwithin : offset.toNat + length.toNat ≤ c.length) :
    h.stores ptr length offset garbage =
      (readAt c offset.toNat length.toNat).zipIdx.map fun x => (ptr + UInt32.ofNat x.2, x.1) := by
  have hread : (readAt c offset.toNat length.toNat).length = length.toNat := by
    simp [readAt]
    omega
  rw [stores_eq]
  refine List.ext_getElem (by simp [storeBytes, hread]) fun i hi hi' => ?_
  have hlt : i < (readAt c offset.toNat length.toNat).length := by simpa using hi'
  simp [storeBytes, Buffer.fill, hlt]

end Stored

/-! ## Two histories -/

section Histories

variable (c : List UInt8) (ptr length offset : UInt32)

def twoFiles : Nat → List UInt8 := fun file => if file = 1 then c else []

def afterWriting (v : UInt8) : List Transfer :=
  [.open 0 2 true, .open 1 0 true, .putBytes 1 ptr length 0 (fun _ => v) 0 fun _ => 0]

def leftBehind (v : UInt8) : Buffer :=
  ((⟨0, fun _ => 0⟩ : Buffer).ensure length.toNat fun _ => 0).fill (loadBytes (fun _ => v) ptr length.toNat)

def bothOpen : Nat → Option OpenFile :=
  Function.update (Function.update (fun _ => none) 1 (some ⟨0, true⟩)) 2 (some ⟨1, false⟩)

lemma transfers_afterWriting (v : UInt8) :
    transfers (hostFsStart (twoFiles c)) (afterWriting ptr length v) =
      some ⟨twoFiles c, bothOpen, leftBehind ptr length v⟩ := by
  have hfirst : transfer (hostFsStart (twoFiles c)) (.open 0 2 true) =
      some { hostFsStart (twoFiles c) with openFile := Function.update (fun _ => none) 1 (some ⟨0, true⟩) } := rfl
  have hsecond : transfer
      { hostFsStart (twoFiles c) with openFile := Function.update (fun _ => none) 1 (some ⟨0, true⟩) }
        (.open 1 0 true) = some { hostFsStart (twoFiles c) with openFile := bothOpen } := rfl
  have hthird : transfer { hostFsStart (twoFiles c) with openFile := bothOpen }
      (.putBytes 1 ptr length 0 (fun _ => v) 0 fun _ => 0) =
        some ⟨twoFiles c, bothOpen, leftBehind ptr length v⟩ := by
    have hopen : hostfsGetOpenFile { hostFsStart (twoFiles c) with openFile := bothOpen } 1 =
        some ⟨0, true⟩ := rfl
    rw [transfer, hostfsPutbytes, hopen]
    -- nothing is taken of what is written, so that the file stays empty
    simp only [if_true, List.take_zero, writeAt, HostFs.put, Function.update_eq_self]
    rfl
  rw [transfers, afterWriting, List.foldlM_cons, hfirst]
  dsimp only [bind, Option.bind]
  rw [List.foldlM_cons, hsecond]
  dsimp only [bind, Option.bind]
  rw [List.foldlM_cons, hthird]
  rfl

def written (v : UInt8) : History c where
  files := twoFiles c
  requests := afterWriting ptr length v
  handle := 2
  left := ⟨twoFiles c, bothOpen, leftBehind ptr length v⟩
  file := ⟨1, false⟩
  leaves := transfers_afterWriting c ptr length v
  isOpen := rfl
  has := rfl

lemma stores_written (v : UInt8) (garbage : Nat → UInt8) {i : Nat} (hi : i < length.toNat)
    (hpast : c.length ≤ offset.toNat + i) :
    ((written c ptr length v).stores ptr length offset garbage)[i]? = some (ptr + UInt32.ofNat i, v) := by
  have hread : ¬i < (readAt c offset.toNat length.toNat).length := by
    simp [readAt]
    omega
  have hsize : (leftBehind ptr length v).ensure length.toNat garbage = leftBehind ptr length v := by
    rw [Buffer.ensure, if_neg]
    simp only [leftBehind, Buffer.fill, Buffer.ensure]
    split
    · exact lt_irrefl _
    · omega
  rw [stores_eq]
  change (storeBytes (((leftBehind ptr length v).ensure length.toNat garbage).fill _) ptr length.toNat)[i]? = _
  rw [hsize, storeBytes, List.getElem?_map, List.getElem?_range hi]
  simp [Buffer.fill, leftBehind, hread, loadBytes, hi]

end Histories

/-- **When a read gives the guest the file's bytes alone**: just where it is of nothing, or ends within the file.
Then any two histories that leave a file open with these contents have the same bytes stored. -/
theorem getbytes_same_iff (c : List UInt8) (ptr length offset : UInt32) :
    (∀ (h₁ h₂ : History c) (garbage₁ garbage₂ : Nat → UInt8),
        h₁.stores ptr length offset garbage₁ = h₂.stores ptr length offset garbage₂) ↔
      length = 0 ∨ offset.toNat + length.toNat ≤ c.length := by
  constructor
  · intro hsame
    by_contra hno
    obtain ⟨hzero, hpast⟩ := not_or.mp hno
    have hpos : 0 < length.toNat := Nat.pos_of_ne_zero fun h => hzero (UInt32.toNat_inj.mp h)
    -- the last byte that is asked for is not in the file
    have hi : length.toNat - 1 < length.toNat := by omega
    have hend : c.length ≤ offset.toNat + (length.toNat - 1) := by omega
    have hbytes := congrArg (·[length.toNat - 1]?)
      (hsame (written c ptr length 0) (written c ptr length 1) (fun _ => 0) fun _ => 0)
    rw [stores_written c ptr length offset 0 _ hi hend, stores_written c ptr length offset 1 _ hi hend] at hbytes
    exact absurd hbytes (by simp)
  · rintro (rfl | hwithin) h₁ h₂ garbage₁ garbage₂
    · rw [stores_eq, stores_eq]
      rfl
    · rw [stores_within h₁ garbage₁ hwithin, stores_within h₂ garbage₂ hwithin]

theorem not_getbytes_same :
    ¬∀ (h₁ h₂ : History [0x41]) (garbage₁ garbage₂ : Nat → UInt8),
      h₁.stores 0x8000 2 0 garbage₁ = h₂.stores 0x8000 2 0 garbage₂ := by
  intro hsame
  have hbytes := hsame (written [0x41] 0x8000 2 0) (written [0x41] 0x8000 2 1) (fun _ => 0) fun _ => 0
  exact absurd hbytes (by decide)

end RpcEmu.Hostfs
