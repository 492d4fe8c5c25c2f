import Mathlib.Data.UInt
import RpcEmu.Hostfs.Listing
import RpcEmu.Hostfs.SaveFile
import RpcEmu.Lib.Masks

/-!
# What a directory's entries look like in the guest's buffer

The loop of `hostfs_read_dir` of `hostfs.c`, with what it stores.

* **Stores.**  Everything that is stored for an entry is one run of bytes, `entryBytes`, and what comes next starts
  where the room that was counted for it ends (`fillEntry_eq`).  An address wraps where the guest's addresses do.
* **The time stamp.**  Five bytes, the lowest first, are what RISC OS has for a time.  The bytes that are stored are
  those five, each in the place of the next (`entryBytes_eq_iff`).
-/

namespace RpcEmu.Hostfs

/-! ## Runs of bytes -/

def storeRun (mem : GuestMemory) (ptr : UInt32) (bytes : List UInt8) : GuestMemory :=
  fun a => bytes.getD (a - ptr).toNat (mem a)

section Runs

variable {mem : GuestMemory} {ptr a : UInt32} {bytes more : List UInt8}

lemma storeRun_past (h : bytes.length ≤ (a - ptr).toNat) : storeRun mem ptr bytes a = mem a := by
  rw [storeRun, List.getD_eq_getElem?_getD, List.getElem?_eq_none h, Option.getD_none]

@[simp] lemma storeRun_nil (mem : GuestMemory) (ptr : UInt32) : storeRun mem ptr [] = mem := by
  funext a
  exact storeRun_past (Nat.zero_le _)

lemma toNat_sub_add {n : Nat} (h : n ≤ (a - ptr).toNat) :
    (a - (ptr + UInt32.ofNat n)).toNat = (a - ptr).toNat - n := by
  have hn : (UInt32.ofNat n).toNat = n := UInt32.toNat_ofNat_of_lt' (lt_of_le_of_lt h (a - ptr).toNat_lt)
  rw [sub_add_eq_sub_sub, UInt32.toNat_sub_of_le _ _ (by rw [UInt32.le_iff_toNat_le, hn]; exact h), hn]

lemma le_toNat_sub_add {n k : Nat} (h : (a - ptr).toNat < n) (hk : n + k ≤ 2 ^ 32) :
    k ≤ (a - (ptr + UInt32.ofNat n)).toNat := by
  have hmod : (UInt32.ofNat n).toNat = n % 2 ^ 32 := UInt32.toNat_ofNat'
  have hlt := (a - ptr).toNat_lt
  rw [sub_add_eq_sub_sub, UInt32.toNat_sub, hmod]
  omega

lemma storeRun_append (h : bytes.length + more.length ≤ 2 ^ 32) :
    storeRun (storeRun mem ptr bytes) (ptr + UInt32.ofNat bytes.length) more =
      storeRun mem ptr (bytes ++ more) := by
  funext a
  rcases Nat.lt_or_ge (a - ptr).toNat bytes.length with hlt | hge
  · rw [storeRun_past (le_toNat_sub_add hlt h), storeRun, storeRun, List.getD_eq_getElem?_getD,
      List.getD_eq_getElem?_getD, List.getElem?_append_left hlt]
  · rw [storeRun, toNat_sub_add hge, storeRun_past hge, storeRun, List.getD_eq_getElem?_getD,
      List.getD_eq_getElem?_getD, List.getElem?_append_right hge]

lemma loadBytes_storeRun (h : bytes.length ≤ 2 ^ 32) :
    loadBytes (storeRun mem ptr bytes) ptr bytes.length = bytes := by
  refine List.ext_getElem (length_loadBytes _ _ _) fun i hi _ => ?_
  have hlt : i < bytes.length := by simpa using hi
  have hi32 : (UInt32.ofNat i).toNat = i := UInt32.toNat_ofNat_of_lt' (lt_of_lt_of_le hlt h)
  simp only [loadBytes, List.getElem_map, List.getElem_range, storeRun, add_sub_cancel_left, hi32,
    List.getD_eq_getElem?_getD, List.getElem?_eq_getElem hlt, Option.getD_some]

lemma loadBytes_congr {mem' : GuestMemory} {n : Nat} (hn : n ≤ 2 ^ 32)
    (h : ∀ a, (a - ptr).toNat < n → mem' a = mem a) : loadBytes mem' ptr n = loadBytes mem ptr n := by
  refine List.map_congr_left fun i hi => h _ ?_
  have hlt := List.mem_range.mp hi
  rwa [add_sub_cancel_left, UInt32.toNat_ofNat_of_lt' (lt_of_lt_of_le hlt hn)]

end Runs

/-! ## The loop -/

def wordBytes (w : UInt32) : List UInt8 := [w.toUInt8, (w >>> 8).toUInt8, (w >>> 16).toUInt8, (w >>> 24).toUInt8]

/-- `ARMul_StoreWordS`. -/
def storeWord (mem : GuestMemory) (address data : UInt32) : GuestMemory := storeRun mem address (wordBytes data)

/-- `ARMul_StoreByte`. -/
def storeByte (mem : GuestMemory) (address : UInt32) (data : UInt8) : GuestMemory := storeRun mem address [data]

/-- `put_string`. -/
def putString (mem : GuestMemory) (address : UInt32) : Name → GuestMemory
  | [] => storeByte mem address 0
  | c :: str => putString (storeByte mem address c) (address + 1) str

/-- `OBJECT_TYPE`, as a number. -/
def ObjectType.code : ObjectType → UInt32
  | .file => 1
  | .directory => 2

/-- `ROUND_UP_TO_4`, of an address. -/
def roundUpPtr (ptr : UInt32) : UInt32 := (ptr + 3) &&& 0xfffffffc

def fillEntry (withInfo withTimestamp : Bool) (entry : CacheDirectoryEntry) (ptr : UInt32) (mem : GuestMemory) :
    UInt32 × GuestMemory :=
  let info := entry.objectInfo
  let (ptr, mem) :=
    if withInfo then
      let mem := storeWord mem (ptr + 0) info.load
      let mem := storeWord mem (ptr + 4) info.exec
      let mem := storeWord mem (ptr + 8) info.length
      let mem := storeWord mem (ptr + 12) info.attribs
      let mem := storeWord mem (ptr + 16) info.type.code
      if withTimestamp then
        let mem := storeWord mem (ptr + 20) 0
        let mem :=
          if dateStamped info.load then
            storeByte (storeWord mem (ptr + 24) ((info.load <<< 24) ||| (info.exec >>> 8))) (ptr + 28)
              info.exec.toUInt8
          else storeByte (storeWord mem (ptr + 24) 0) (ptr + 28) 0
        (ptr + 29, mem)
      else (ptr + 20, mem)
    else (ptr, mem)
  let mem := putString mem ptr entry.name
  let ptr := ptr + UInt32.ofNat (entry.name.length + 1)
  (if withInfo then roundUpPtr ptr else ptr, mem)

structure Filling where
  bufferRemaining : UInt32
  count : UInt32
  offset : UInt32
  ptr : UInt32
  mem : GuestMemory

/-- The loop of `hostfs_read_dir` over the entries from the offset on. -/
def fillLoop (withInfo withTimestamp : Bool) (numObjectsToRead : UInt32) :
    List CacheDirectoryEntry → Filling → Filling
  | [], f => f
  | entry :: entries, f =>
    if f.count < numObjectsToRead then
      if f.bufferRemaining.toNat < entrySpace withInfo withTimestamp entry.name then f
      else
        let (ptr, mem) := fillEntry withInfo withTimestamp entry f.ptr f.mem
        fillLoop withInfo withTimestamp numObjectsToRead entries
          { bufferRemaining := f.bufferRemaining - UInt32.ofNat (entrySpace withInfo withTimestamp entry.name)
            count := f.count + 1
            offset := f.offset + 1
            ptr := ptr
            mem := mem }
    else f

/-! ## What an entry's record is -/

def fiveByteTime (info : ObjectInfo) : List UInt8 :=
  if dateStamped info.load then wordBytes info.exec ++ [info.load.toUInt8] else [0, 0, 0, 0, 0]

def infoBytes (info : ObjectInfo) : List UInt8 :=
  wordBytes info.load ++ wordBytes info.exec ++ wordBytes info.length ++ wordBytes info.attribs ++
    wordBytes info.type.code

def entryRecord (withInfo withTimestamp : Bool) (entry : CacheDirectoryEntry) : List UInt8 :=
  let info := entry.objectInfo
  (if withInfo then infoBytes info ++ if withTimestamp then wordBytes 0 ++ fiveByteTime info else []
  else []) ++ entry.name ++ [0]

def storedTime (info : ObjectInfo) : List UInt8 :=
  if dateStamped info.load then wordBytes ((info.load <<< 24) ||| (info.exec >>> 8)) ++ [info.exec.toUInt8]
  else [0, 0, 0, 0, 0]

def entryBytes (withInfo withTimestamp : Bool) (entry : CacheDirectoryEntry) : List UInt8 :=
  let info := entry.objectInfo
  (if withInfo then infoBytes info ++ if withTimestamp then wordBytes 0 ++ storedTime info else []
  else []) ++ entry.name ++ [0]

/-- The records stand one after the other in the memory. -/
def Laid (record : CacheDirectoryEntry → List UInt8) (space : Name → Nat) (mem : GuestMemory) :
    UInt32 → List CacheDirectoryEntry → Prop
  | _, [] => True
  | ptr, entry :: entries =>
    loadBytes mem ptr (record entry).length = record entry ∧
      Laid record space mem (ptr + UInt32.ofNat (space entry.name)) entries

/-- The five bytes of a date stamp are all one. -/
def SameBytes (info : ObjectInfo) : Prop :=
  dateStamped info.load = true → ∃ b : UInt8, wordBytes info.exec ++ [info.load.toUInt8] = List.replicate 5 b

section Entries

variable {withInfo withTimestamp : Bool} {entry : CacheDirectoryEntry} {ptr : UInt32} {mem : GuestMemory}

@[simp] lemma length_wordBytes (w : UInt32) : (wordBytes w).length = 4 := rfl

@[simp] lemma length_infoBytes (info : ObjectInfo) : (infoBytes info).length = 20 := rfl

@[simp] lemma length_storedTime (info : ObjectInfo) : (storedTime info).length = 5 := by
  unfold storedTime
  split <;> rfl

@[simp] lemma length_fiveByteTime (info : ObjectInfo) : (fiveByteTime info).length = 5 := by
  unfold fiveByteTime
  split <;> rfl

lemma storeWord_after {bytes : List UInt8} {k : UInt32} (w : UInt32) (hk : UInt32.ofNat bytes.length = k)
    (h : bytes.length ≤ 64) :
    storeWord (storeRun mem ptr bytes) (ptr + k) w = storeRun mem ptr (bytes ++ wordBytes w) := by
  rw [← hk, storeWord, storeRun_append (by rw [length_wordBytes]; omega)]

lemma storeByte_after {bytes : List UInt8} {k : UInt32} (b : UInt8) (hk : UInt32.ofNat bytes.length = k)
    (h : bytes.length ≤ 64) :
    storeByte (storeRun mem ptr bytes) (ptr + k) b = storeRun mem ptr (bytes ++ [b]) := by
  rw [← hk, storeByte, storeRun_append (by rw [List.length_singleton]; omega)]

lemma putString_eq {str : Name} (h : str.length + 1 ≤ 2 ^ 32) :
    putString mem ptr str = storeRun mem ptr (str ++ [0]) := by
  induction str generalizing ptr mem with
  | nil => rfl
  | cons c str ih =>
    rw [List.length_cons] at h
    have hone : storeRun (storeRun mem ptr [c]) (ptr + UInt32.ofNat [c].length) (str ++ [0]) =
        storeRun mem ptr ([c] ++ (str ++ [0])) := storeRun_append (by simp; omega)
    rw [putString, ih (by omega), storeByte]
    exact hone

lemma putString_after {bytes : List UInt8} {k : UInt32} {str : Name} (hk : UInt32.ofNat bytes.length = k)
    (h : bytes.length + (str.length + 1) ≤ 2 ^ 32) :
    putString (storeRun mem ptr bytes) (ptr + k) str = storeRun mem ptr (bytes ++ str ++ [0]) := by
  have hlen : (str ++ [0]).length = str.length + 1 := by simp
  rw [putString_eq (by omega), ← hk, storeRun_append (by rw [hlen]; exact h), List.append_assoc]

lemma length_entryBytes (withInfo withTimestamp : Bool) (entry : CacheDirectoryEntry) :
    (entryBytes withInfo withTimestamp entry).length ≤ entrySpace withInfo withTimestamp entry.name ∧
      (entryRecord withInfo withTimestamp entry).length = (entryBytes withInfo withTimestamp entry).length := by
  cases withInfo <;> cases withTimestamp <;>
    simp only [entryBytes, entryRecord, entrySpace, roundUpTo4, List.length_append, length_wordBytes,
      length_infoBytes, length_storedTime, length_fiveByteTime, if_true, if_false, Bool.false_eq_true,
      List.length_nil, List.length_singleton, and_true] <;> omega

lemma roundUpPtr_add (n : Nat) (hptr : ptr.toNat % 4 = 0) :
    roundUpPtr (ptr + UInt32.ofNat n) = ptr + UInt32.ofNat (roundUpTo4 n) := by
  unfold roundUpTo4
  have hlt := ptr.toNat_lt
  have hmask : ∀ x : UInt32, (x &&& 0xfffffffc).toNat = x.toNat / 4 * 4 := by
    intro x
    have hx := x.toNat_lt
    have hfield := Masks.toNat_and_field 2 30 (m := 0xfffffffc) rfl x
    rw [hfield]
    omega
  rw [← UInt32.toNat_inj, roundUpPtr, hmask]
  simp only [UInt32.toNat_add, UInt32.toNat_ofNat', UInt32.reduceToNat]
  omega

/-- **One entry** is one run of bytes, and what is next is where its room ends. -/
lemma fillEntry_eq (hptr : withInfo = true → ptr.toNat % 4 = 0)
    (hspace : entrySpace withInfo withTimestamp entry.name < 2 ^ 32) :
    fillEntry withInfo withTimestamp entry ptr mem =
      (ptr + UInt32.ofNat (entrySpace withInfo withTimestamp entry.name),
        storeRun mem ptr (entryBytes withInfo withTimestamp entry)) := by
  have hbytes := length_entryBytes withInfo withTimestamp entry
  have hname : entry.name.length + 1 ≤ 2 ^ 32 := by
    have hlen : entry.name.length + 1 ≤ (entryBytes withInfo withTimestamp entry).length := by
      simp only [entryBytes, List.length_append, List.length_singleton]
      omega
    omega
  have hinfo : storeWord (storeWord (storeWord (storeWord (storeWord mem (ptr + 0) entry.objectInfo.load)
      (ptr + 4) entry.objectInfo.exec) (ptr + 8) entry.objectInfo.length) (ptr + 12) entry.objectInfo.attribs)
      (ptr + 16) entry.objectInfo.type.code = storeRun mem ptr (infoBytes entry.objectInfo) := by
    have hfirst : storeWord mem (ptr + 0) entry.objectInfo.load =
        storeRun mem ptr (wordBytes entry.objectInfo.load) := by
      rw [add_zero, storeWord]
    rw [hfirst, infoBytes, storeWord_after (k := 4), storeWord_after (k := 8), storeWord_after (k := 12),
      storeWord_after (k := 16)] <;> simp
  have htime : ∀ w b, storeByte (storeWord (storeWord (storeRun mem ptr (infoBytes entry.objectInfo)) (ptr + 20) 0)
      (ptr + 24) w) (ptr + 28) b =
        storeRun mem ptr (infoBytes entry.objectInfo ++ (wordBytes 0 ++ (wordBytes w ++ [b]))) := by
    intro w b
    rw [storeWord_after (k := 20), storeWord_after (k := 24), storeByte_after (k := 28)] <;> simp
  have hfits := hbytes.1.trans hspace.le
  cases withInfo with
  | false =>
    have hpast : ptr + UInt32.ofNat (entry.name.length + 1) =
        ptr + UInt32.ofNat (entrySpace false withTimestamp entry.name) := rfl
    simp only [fillEntry, Bool.false_eq_true, if_false, hpast, putString_eq hname]
    rfl
  | true =>
    have hround : ∀ n : Nat, roundUpPtr (ptr + UInt32.ofNat n + UInt32.ofNat (entry.name.length + 1)) =
        ptr + UInt32.ofNat (roundUpTo4 (n + (entry.name.length + 1))) := by
      intro n
      rw [add_assoc, ← UInt32.ofNat_add, roundUpPtr_add _ (hptr rfl)]
    cases withTimestamp with
    | false =>
      simp only [fillEntry, Bool.false_eq_true, if_false, if_true, hinfo]
      rw [putString_after (k := 20) rfl, Prod.mk_inj]
      · exact ⟨hround 20, by simp [entryBytes]⟩
      · simpa [entryBytes] using hfits
    | true =>
      have hstored : (if dateStamped entry.objectInfo.load = true then
            storeByte (storeWord (storeWord (storeRun mem ptr (infoBytes entry.objectInfo)) (ptr + 20) 0) (ptr + 24)
              (entry.objectInfo.load <<< 24 ||| entry.objectInfo.exec >>> 8)) (ptr + 28) entry.objectInfo.exec.toUInt8
          else
            storeByte (storeWord (storeWord (storeRun mem ptr (infoBytes entry.objectInfo)) (ptr + 20) 0) (ptr + 24)
              0) (ptr + 28) 0) =
          storeRun mem ptr (infoBytes entry.objectInfo ++ (wordBytes 0 ++ storedTime entry.objectInfo)) := by
        rw [htime, htime, storedTime]
        split <;> rfl
      simp only [fillEntry, if_true, hinfo, hstored]
      rw [putString_after (k := 29) (by simp), Prod.mk_inj]
      · exact ⟨hround 29, by simp [entryBytes]⟩
      · simp only [entryBytes, if_true, List.length_append, length_infoBytes, length_wordBytes, length_storedTime,
          List.length_singleton] at hfits ⊢
        omega

lemma wordBytes_time (load exec : UInt32) :
    wordBytes ((load <<< 24) ||| (exec >>> 8)) =
      [(exec >>> 8).toUInt8, (exec >>> 16).toUInt8, (exec >>> 24).toUInt8, load.toUInt8] := by
  have hexec := exec.toNat_lt
  have hword : ((load <<< 24) ||| (exec >>> 8)).toNat = load.toNat % 256 * 2 ^ 24 + exec.toNat / 256 := by
    have hhigh : load.toNat <<< 24 % 2 ^ 32 = (load.toNat % 256) <<< 24 := by
      rw [Nat.shiftLeft_eq, Nat.shiftLeft_eq]
      omega
    have hlow : exec.toNat >>> 8 < 2 ^ 24 := by
      rw [Nat.shiftRight_eq_div_pow]
      omega
    rw [UInt32.toNat_or, UInt32.toNat_shiftLeft, UInt32.toNat_shiftRight]
    change load.toNat <<< 24 % 2 ^ 32 ||| exec.toNat >>> 8 = _
    rw [hhigh, ← Nat.shiftLeft_add_eq_or_of_lt hlow, Nat.shiftLeft_eq, Nat.shiftRight_eq_div_pow]
  have hbyte : ∀ (w : UInt32) (k : UInt32), (w >>> k).toUInt8.toNat = w.toNat / 2 ^ (k.toNat % 32) % 256 := by
    intro w k
    rw [UInt32.toNat_toUInt8, UInt32.toNat_shiftRight, Nat.shiftRight_eq_div_pow]
  have hzero : ∀ w : UInt32, w.toUInt8.toNat = w.toNat % 256 := fun w => UInt32.toNat_toUInt8 w
  simp only [wordBytes, List.cons.injEq, and_true, ← UInt8.toNat_inj, hbyte, hzero, hword, UInt32.reduceToNat,
    Nat.reduceMod, Nat.reducePow]
  omega

/-- **The time as it is stored** is the time where its bytes are all the same. -/
lemma storedTime_eq_iff (info : ObjectInfo) : storedTime info = fiveByteTime info ↔ SameBytes info := by
  unfold storedTime fiveByteTime SameBytes
  by_cases hstamp : dateStamped info.load = true
  · rw [if_pos hstamp, if_pos hstamp, wordBytes_time]
    simp only [hstamp, forall_const, wordBytes, List.cons_append, List.nil_append, List.replicate, List.cons.injEq,
      and_true]
    constructor
    · rintro ⟨h1, h2, h3, h4, h0⟩
      exact ⟨info.exec.toUInt8, rfl, h1, h2.trans h1, h3.trans (h2.trans h1), h0.symm⟩
    · rintro ⟨b, h0, h1, h2, h3, h4⟩
      exact ⟨h1.trans h0.symm, h2.trans h1.symm, h3.trans h2.symm, h4.trans h3.symm, h0.trans h4.symm⟩
  · simp [hstamp]

/-- **What is stored of an entry is its record**, but for the time. -/
lemma entryBytes_eq_iff :
    entryBytes withInfo withTimestamp entry = entryRecord withInfo withTimestamp entry ↔
      (withInfo = true → withTimestamp = true → SameBytes entry.objectInfo) := by
  rw [← storedTime_eq_iff]
  cases withInfo <;> cases withTimestamp <;> simp [entryBytes, entryRecord]

lemma entrySpace_words (withTimestamp : Bool) (name : Name) : entrySpace true withTimestamp name % 4 = 0 := by
  unfold entrySpace roundUpTo4
  cases withTimestamp <;> simp

/-- **The loop** returns what there is room for: it counts those entries, their records lie one after the other, and
nothing past the room is touched. -/
lemma fillLoop_eq (withInfo withTimestamp : Bool) (num : UInt32) (entries : List CacheDirectoryEntry) (f : Filling)
    (hptr : withInfo = true → f.ptr.toNat % 4 = 0) :
    (fillLoop withInfo withTimestamp num entries f).count = f.count + UInt32.ofNat
        (returnEntries withInfo withTimestamp (num.toNat - f.count.toNat) f.bufferRemaining.toNat entries).length ∧
      (fillLoop withInfo withTimestamp num entries f).offset = f.offset + UInt32.ofNat
        (returnEntries withInfo withTimestamp (num.toNat - f.count.toNat) f.bufferRemaining.toNat entries).length ∧
      Laid (entryBytes withInfo withTimestamp) (entrySpace withInfo withTimestamp)
        (fillLoop withInfo withTimestamp num entries f).mem f.ptr
        (returnEntries withInfo withTimestamp (num.toNat - f.count.toNat) f.bufferRemaining.toNat entries) ∧
      ∀ a, f.bufferRemaining.toNat ≤ (a - f.ptr).toNat →
        (fillLoop withInfo withTimestamp num entries f).mem a = f.mem a := by
  have hstop : ∀ m n : Nat, returnEntries withInfo withTimestamp m n [] = [] := by
    intro m n
    cases m <;> rfl
  induction entries generalizing f with
  | nil =>
    rw [hstop, fillLoop]
    simp [Laid]
  | cons entry entries ih =>
    rw [fillLoop]
    by_cases hcount : f.count < num
    · have hcount' := UInt32.lt_iff_toNat_lt.mp hcount
      obtain ⟨left, hleft⟩ : ∃ left, num.toNat - f.count.toNat = left + 1 := ⟨num.toNat - f.count.toNat - 1, by omega⟩
      rw [if_pos hcount, hleft, returnEntries]
      by_cases hroom : f.bufferRemaining.toNat < entrySpace withInfo withTimestamp entry.name
      · rw [if_pos hroom, if_pos hroom]
        simp [Laid]
      · have hrem := f.bufferRemaining.toNat_lt
        have hspace : entrySpace withInfo withTimestamp entry.name < 2 ^ 32 := by omega
        have hof : (UInt32.ofNat (entrySpace withInfo withTimestamp entry.name)).toNat =
            entrySpace withInfo withTimestamp entry.name := UInt32.toNat_ofNat_of_lt' hspace
        have hless : (f.bufferRemaining - UInt32.ofNat (entrySpace withInfo withTimestamp entry.name)).toNat =
            f.bufferRemaining.toNat - entrySpace withInfo withTimestamp entry.name := by
          rw [UInt32.toNat_sub_of_le _ _ (by rw [UInt32.le_iff_toNat_le, hof]; omega), hof]
        have hnum := num.toNat_lt
        have hmore : num.toNat - (f.count + 1).toNat = left := by
          rw [UInt32.toNat_add, UInt32.toNat_one]
          omega
        have hnext : withInfo = true →
            (f.ptr + UInt32.ofNat (entrySpace withInfo withTimestamp entry.name)).toNat % 4 = 0 := by
          rintro rfl
          have hp := hptr rfl
          have hw := entrySpace_words withTimestamp entry.name
          rw [UInt32.toNat_add, hof]
          omega
        rw [if_neg hroom, if_neg hroom, fillEntry_eq hptr hspace]
        dsimp only
        obtain ⟨hc, ho, hl, hm⟩ := ih
          { bufferRemaining := f.bufferRemaining - UInt32.ofNat (entrySpace withInfo withTimestamp entry.name)
            count := f.count + 1
            offset := f.offset + 1
            ptr := f.ptr + UInt32.ofNat (entrySpace withInfo withTimestamp entry.name)
            mem := storeRun f.mem f.ptr (entryBytes withInfo withTimestamp entry) } hnext
        simp only [hless, hmore] at hc ho hl hm
        have hlen := (length_entryBytes withInfo withTimestamp entry).1
        have hone : ∀ (x : UInt32) (k : Nat), x + 1 + UInt32.ofNat k = x + UInt32.ofNat (k + 1) := by
          intro x k
          rw [UInt32.ofNat_add, add_assoc, add_comm (UInt32.ofNat k)]
          rfl
        refine ⟨?_, ?_, ⟨?_, hl⟩, ?_⟩
        · rw [hc, List.length_cons, hone]
        · rw [ho, List.length_cons, hone]
        · -- what comes later is stored past this entry's room
          have hsame := loadBytes_congr (n := (entryBytes withInfo withTimestamp entry).length) (by omega)
            fun a ha => hm a (le_toNat_sub_add (lt_of_lt_of_le ha hlen) (by omega))
          rw [hsame, loadBytes_storeRun (by omega)]
        · intro a ha
          rw [hm a (by rw [toNat_sub_add (by omega)]; omega), storeRun_past (by omega)]
    · have hcount' := mt UInt32.lt_iff_toNat_lt.mpr hcount
      have hzero : num.toNat - f.count.toNat = 0 := by omega
      rw [if_neg hcount, hzero]
      simp [returnEntries, Laid]

lemma laid_iff {entries : List CacheDirectoryEntry}
    (h : Laid (entryBytes withInfo withTimestamp) (entrySpace withInfo withTimestamp) mem ptr entries) :
    Laid (entryRecord withInfo withTimestamp) (entrySpace withInfo withTimestamp) mem ptr entries ↔
      (withInfo = true → withTimestamp = true → ∀ entry ∈ entries, SameBytes entry.objectInfo) := by
  induction entries generalizing ptr with
  | nil => simp [Laid]
  | cons entry entries ih =>
    obtain ⟨hentry, hentries⟩ := h
    have hlen := (length_entryBytes withInfo withTimestamp entry).2
    rw [Laid, ih hentries, hlen, hentry, entryBytes_eq_iff]
    simp only [List.mem_cons, forall_eq_or_imp]
    tauto

end Entries

end RpcEmu.Hostfs
