import RpcEmu.Hostfs.Records

/-!
# A directory, call after call

`hostfs_cache_dir` and `hostfs_read_dir` of `hostfs.c` with the statics they keep between calls, and what a guest has
that reads a directory from the start, each time from the offset it was given.

* **The cache.**  `cached_directory` is compared with and never written, so whatever other directories are read in
  between, each call reads its own again (`CacheOk`).  The capacities of the two arrays only ever double; where one
  would come to nothing, the program stops.
* **The sequence.**  What a call returns is the next of the listing, and at least one (`readDirCall_eq`); so the
  offset is always that of the first entry that was not returned.
* **The records** are those of the entries but for the time stamp, where that is asked for.
-/

namespace RpcEmu.Hostfs

/-! ## The statics -/

/-- `cache_entries` with `cache_names`, the capacities of both, and `cached_directory`. -/
structure DirectoryCache where
  entries : List CacheDirectoryEntry
  entriesCapacity : UInt32
  namesCapacity : UInt32
  cachedDirectory : Name

def DirectoryCache.start : DirectoryCache := ⟨[], 128, 2048, []⟩

/-- The loop of `hostfs_cache_dir`, with what it has got to. -/
structure Reading where
  kept : List CacheDirectoryEntry
  entryPtr : UInt32
  namePtr : UInt32
  entriesCapacity : UInt32
  namesCapacity : UInt32

/-- Twice the capacity.  There is no array of no bytes: `realloc` returns a null pointer, and `fatal` is called. -/
def doubled (capacity : UInt32) : Option UInt32 := if capacity * 2 = 0 then none else some (capacity * 2)

/-- What is done with an entry that there is anything to read of.  None, where the program stops, or where a name
is put past the end of the names: they are made larger once. -/
def keepEntry (r : Reading) (c : CacheDirectoryEntry) : Option Reading :=
  let stringSpace := UInt32.ofNat (c.name.length + 1)
  (if r.namesCapacity - r.namePtr < stringSpace then doubled r.namesCapacity else some r.namesCapacity).bind
    fun namesCapacity =>
      if namesCapacity - r.namePtr < stringSpace then none
      else
        let entryPtr := r.entryPtr + 1
        (if entryPtr = r.entriesCapacity then doubled r.entriesCapacity else some r.entriesCapacity).map
          fun entriesCapacity =>
            { kept := r.kept ++ [c]
              entryPtr := entryPtr
              namePtr := r.namePtr + stringSpace
              entriesCapacity := entriesCapacity
              namesCapacity := namesCapacity }

/-- The loop of `hostfs_cache_dir`. -/
def keepEntries : List CacheDirectoryEntry → Reading → Option Reading
  | [], r => some r
  | c :: cs, r => (keepEntry r c).bind (keepEntries cs)

/-- `hostfs_read_dir`'s registers, and what it finds when it is called. -/
structure ReadDirCall where
  host : Host
  discs : Discs
  roPath : Name
  mem : GuestMemory
  r2 : UInt32
  r3 : UInt32
  r5 : UInt32
  withInfo : Bool
  withTimestamp : Bool

structure Answer where
  r3 : UInt32
  r4 : UInt32
  mem : GuestMemory

section Calls

-- `qsort` is the C library's, which is asked for any order that has no name after one it is before
variable (qsort : List CacheDirectoryEntry → List CacheDirectoryEntry) (lp64Linux : Bool)

/-- `hostfs_cache_dir`. -/
def hostfsCacheDirInto (h : Host) (directoryName : Name) (cache : DirectoryCache) : Option DirectoryCache :=
  (h.readdir directoryName).bind fun entries =>
    (keepEntries (entries.filterMap (cacheEntry lp64Linux h directoryName))
        ⟨[], 0, 0, cache.entriesCapacity, cache.namesCapacity⟩).map fun r =>
      { cache with
        entries := qsort r.kept
        entriesCapacity := r.entriesCapacity
        namesCapacity := r.namesCapacity }

/-- `hostfs_read_dir`, from an offset. -/
def readDirCall (c : ReadDirCall) (r4 : UInt32) (cache : DirectoryCache) : Option (DirectoryCache × Answer) :=
  let resolved := hostfsPathProcess lp64Linux c.host c.discs c.roPath
  match resolved.info with
  | some ⟨.directory, _, _, _, _⟩ =>
    (if resolved.hostPathname ≠ cache.cachedDirectory ∨ r4 = 0 then
        hostfsCacheDirInto qsort lp64Linux c.host resolved.hostPathname cache
      else some cache).map fun cache =>
      let cacheEntriesCount := UInt32.ofNat cache.entries.length
      let f := fillLoop c.withInfo c.withTimestamp c.r3 (cache.entries.drop r4.toNat) ⟨c.r5, 0, r4, c.r2, c.mem⟩
      (cache, ⟨f.count, if cacheEntriesCount ≤ f.offset ∧ f.count = 0 then 0xffffffff else f.offset, f.mem⟩)
  | _ => some (cache, ⟨0, 0xffffffff, c.mem⟩)

structure Visit where
  others : List (ReadDirCall × UInt32)
  call : ReadDirCall

inductive Ending
  | going
  | ended
  | otherFatal
  | fatal
  deriving DecidableEq

def afterOthers : DirectoryCache → List (ReadDirCall × UInt32) → Option DirectoryCache
  | cache, [] => some cache
  | cache, o :: others => (readDirCall qsort lp64Linux o.1 o.2 cache).bind fun p => afterOthers p.1 others

def enumerate : DirectoryCache → UInt32 → List Visit → List (ReadDirCall × Answer) × Ending
  | _, _, [] => ([], .going)
  | cache, r4, v :: visits =>
    match afterOthers qsort lp64Linux cache v.others with
    | none => ([], .otherFatal)
    | some cache =>
      match readDirCall qsort lp64Linux v.call r4 cache with
      | none => ([], .fatal)
      | some (cache, a) =>
        if a.r4 = 0xffffffff then ([(v.call, a)], .ended)
        else
          let rest := enumerate cache a.r4 visits
          ((v.call, a) :: rest.1, rest.2)

end Calls

/-! ## What an enumeration is to give -/

/-- `qsort` sorts by `hostfs_directory_entry_compare`. -/
def Sorts (qsort : List CacheDirectoryEntry → List CacheDirectoryEntry) : Prop :=
  ∀ l, (qsort l).Perm l ∧ (qsort l).Pairwise fun a b => casecmpLe a.name b.name = true

/-- A call on a directory, which is as it was: at least one entry is asked for, and the buffer starts at a word. -/
structure Reads (lp64Linux : Bool) (h : Host) (dir : Name) (c : ReadDirCall) : Prop where
  path : (hostfsPathProcess lp64Linux c.host c.discs c.roPath).hostPathname = dir
  directory : ∃ info, (hostfsPathProcess lp64Linux c.host c.discs c.roPath).info = some info ∧ info.type = .directory
  readdir : c.host.readdir dir = h.readdir dir
  same : ∀ entry, cacheEntry lp64Linux c.host dir entry = cacheEntry lp64Linux h dir entry
  asked : 1 ≤ c.r3.toNat
  aligned : c.r2.toNat % 4 = 0

def ReadDirCall.fits (c : ReadDirCall) (entries : List CacheDirectoryEntry) : List CacheDirectoryEntry :=
  returnEntries c.withInfo c.withTimestamp c.r3.toNat c.r5.toNat entries

/-- Each call's buffer holds the entry it begins with. -/
def Roomy (listing : List CacheDirectoryEntry) : Nat → List Visit → Prop
  | _, [] => True
  | offset, v :: visits =>
    (∀ entry ∈ listing[offset]?, entrySpace v.call.withInfo v.call.withTimestamp entry.name ≤ v.call.r5.toNat) ∧
      Roomy listing (offset + (v.call.fits (listing.drop offset)).length) visits

/-- Of the entries that a call has room for and that are to be given with their times, none has a time whose bytes
differ. -/
def Timely (listing : List CacheDirectoryEntry) : Nat → List ReadDirCall → Prop
  | _, [] => True
  | offset, c :: calls =>
    (c.withInfo = true → c.withTimestamp = true →
        ∀ entry ∈ c.fits (listing.drop offset), SameBytes entry.objectInfo) ∧
      Timely listing (offset + (c.fits (listing.drop offset)).length) calls

/-- Each answer lays out the next entries of the listing. -/
def Delivered (listing : List CacheDirectoryEntry) : Nat → List (ReadDirCall × Answer) → Prop
  | _, [] => True
  | offset, (c, a) :: answers =>
    Laid (entryRecord c.withInfo c.withTimestamp) (entrySpace c.withInfo c.withTimestamp) a.mem c.r2
        ((listing.drop offset).take a.r3.toNat) ∧
      Delivered listing (offset + a.r3.toNat) answers

def returned (answers : List (ReadDirCall × Answer)) : Nat := (answers.map fun p => p.2.r3.toNat).sum

/-- **A directory is enumerated**: each entry comes once and in its place, whatever the calls; when the calls end all
of them have come, and the calls do end; and no byte past a buffer is touched. -/
structure Enumerated (listing : List CacheDirectoryEntry) (visits : List Visit)
    (run : List (ReadDirCall × Answer) × Ending) : Prop where
  delivered : Delivered listing 0 run.1
  most : returned run.1 ≤ listing.length
  whole : run.2 = .ended → returned run.1 = listing.length
  ends : listing.length < visits.length → run.2 ≠ .going
  bounded : ∀ p ∈ run.1, ∀ address : UInt32, p.1.r5.toNat ≤ (address - p.1.r2).toNat →
    p.2.mem address = p.1.mem address

def nameSort (l : List CacheDirectoryEntry) : List CacheDirectoryEntry :=
  l.insertionSort fun a b => casecmpLe a.name b.name = true

/-- A directory whose names there is room for: each is short of 2048 bytes, and they come to no more than 2GB. -/
structure Holdable (kept : List CacheDirectoryEntry) : Prop where
  short : ∀ c ∈ kept, c.name.length < 2048
  names : (kept.map fun c => c.name.length + 1).sum ≤ 2 ^ 31
  count : kept.length < 2 ^ 31

/-! ## The arrays -/

/-- A capacity is a power of two, from `2 ^ lo` on. -/
def Power (lo : Nat) (capacity : UInt32) : Prop := ∃ k, lo ≤ k ∧ k < 32 ∧ capacity.toNat = 2 ^ k

lemma Power.double {lo : Nat} {capacity larger : UInt32} (h : Power lo capacity)
    (hlarger : doubled capacity = some larger) : Power lo larger ∧ larger.toNat = 2 * capacity.toNat := by
  obtain ⟨k, hlo, hk, hcap⟩ := h
  obtain ⟨hne, hsome⟩ := Option.ite_none_left_eq_some.mp hlarger
  obtain rfl := Option.some.inj hsome
  have htwo : (capacity * 2).toNat = 2 ^ (k + 1) % 2 ^ 32 := by
    rw [UInt32.toNat_mul, hcap, pow_succ]
    rfl
  rcases Nat.lt_or_ge (k + 1) 32 with hlt | hge
  · rw [Nat.mod_eq_of_lt (Nat.pow_lt_pow_right (by decide) hlt)] at htwo
    exact ⟨⟨k + 1, by omega, hlt, htwo⟩, by rw [htwo, hcap, pow_succ, Nat.mul_comm]⟩
  · obtain rfl : k = 31 := by omega
    exact absurd (UInt32.toNat_inj.mp (htwo.trans rfl)) hne

lemma Power.double_isSome {lo : Nat} {capacity : UInt32} (h : Power lo capacity) (hlt : capacity.toNat < 2 ^ 31) :
    ∃ larger, doubled capacity = some larger := by
  obtain ⟨k, -, -, hcap⟩ := h
  refine ⟨_, Option.ite_none_left_eq_some.mpr ⟨fun hzero => ?_, rfl⟩⟩
  have hpos := Nat.two_pow_pos k
  have hmul : (capacity * 2).toNat = capacity.toNat * 2 % 2 ^ 32 := UInt32.toNat_mul capacity 2
  rw [hzero, Nat.mod_eq_of_lt (by omega), UInt32.toNat_zero] at hmul
  omega

/-- What the loop of `hostfs_cache_dir` keeps to. -/
structure Reading.Ok (r : Reading) : Prop where
  entries : Power 0 r.entriesCapacity
  names : Power 11 r.namesCapacity
  counted : r.entryPtr.toNat = r.kept.length
  room : r.kept.length < r.entriesCapacity.toNat

/-- **One entry** is put behind those there are, and counted. -/
lemma Reading.Ok.keepEntry {r r' : Reading} {c : CacheDirectoryEntry} (h : r.Ok) (hr : keepEntry r c = some r') :
    r'.Ok ∧ r'.kept = r.kept ++ [c] := by
  unfold Hostfs.keepEntry at hr
  dsimp only at hr
  obtain ⟨namesCapacity, hnames, hr⟩ := Option.bind_eq_some_iff.mp hr
  obtain ⟨-, hr⟩ := Option.ite_none_left_eq_some.mp hr
  obtain ⟨entriesCapacity, hentries, rfl⟩ := Option.map_eq_some_iff.mp hr
  have hcap := h.entries
  have hroom := h.room
  have hcounted : (r.entryPtr + 1).toNat = (r.kept ++ [c]).length := by
    have hlt := r.entriesCapacity.toNat_lt
    rw [UInt32.toNat_add, UInt32.toNat_one, h.counted, List.length_append, List.length_singleton,
      Nat.mod_eq_of_lt (by omega)]
  have hlen : (r.kept ++ [c]).length = r.kept.length + 1 := by simp
  refine ⟨⟨?_, ?_, hcounted, ?_⟩, rfl⟩
  · dsimp only
    split at hentries
    · exact (hcap.double hentries).1
    · exact Option.some.inj hentries ▸ hcap
  · dsimp only
    split at hnames
    · exact (h.names.double hnames).1
    · exact Option.some.inj hnames ▸ h.names
  · dsimp only
    split at hentries
    · have htwice := (hcap.double hentries).2
      omega
    next hne =>
      obtain rfl := Option.some.inj hentries
      have hne' : (r.entryPtr + 1).toNat ≠ r.entriesCapacity.toNat := fun heq => hne (UInt32.toNat_inj.mp heq)
      omega

/-- **All entries** are kept, in the order they are read in. -/
lemma Reading.Ok.keepEntries {cs : List CacheDirectoryEntry} {r r' : Reading} (h : r.Ok)
    (hr : keepEntries cs r = some r') : r'.Ok ∧ r'.kept = r.kept ++ cs := by
  induction cs generalizing r with
  | nil =>
    obtain rfl := Option.some.inj hr
    exact ⟨h, (List.append_nil _).symm⟩
  | cons c cs ih =>
    obtain ⟨r₁, hone, hrest⟩ := Option.bind_eq_some_iff.mp hr
    obtain ⟨h₁, hkept₁⟩ := h.keepEntry hone
    obtain ⟨h', hkept⟩ := ih h₁ hrest
    exact ⟨h', by rw [hkept, hkept₁, List.append_assoc, List.singleton_append]⟩

/-- **The arrays can be made large enough** for names that there is room for. -/
lemma Reading.Ok.keepEntries_isSome {cs : List CacheDirectoryEntry} {r : Reading} (h : r.Ok)
    (hfit : r.namePtr.toNat ≤ r.namesCapacity.toNat) (hshort : ∀ c ∈ cs, c.name.length < 2048)
    (hnames : r.namePtr.toNat + (cs.map fun c => c.name.length + 1).sum ≤ 2 ^ 31)
    (hcount : r.kept.length + cs.length < 2 ^ 31) : ∃ r', Hostfs.keepEntries cs r = some r' := by
  induction cs generalizing r with
  | nil => exact ⟨r, rfl⟩
  | cons c cs ih =>
    simp only [List.map_cons, List.sum_cons, List.length_cons, List.mem_cons, forall_eq_or_imp]
      at hnames hcount hshort
    have hc := hshort.1
    have hspace : (UInt32.ofNat (c.name.length + 1)).toNat = c.name.length + 1 :=
      UInt32.toNat_ofNat_of_lt' (lt_of_le_of_lt (Nat.succ_le_of_lt hc) (by decide))
    have hleft : ∀ cap : UInt32, r.namePtr.toNat ≤ cap.toNat →
        (cap - r.namePtr < UInt32.ofNat (c.name.length + 1) ↔ cap.toNat < r.namePtr.toNat + (c.name.length + 1)) := by
      intro cap hcap
      rw [UInt32.lt_iff_toNat_lt, UInt32.toNat_sub_of_le _ _ (UInt32.le_iff_toNat_le.mpr hcap), hspace]
      omega
    -- the names: doubled at most once, and never past 2GB
    obtain ⟨namesCapacity, hcap, hcapfits⟩ : ∃ namesCapacity,
        (if r.namesCapacity - r.namePtr < UInt32.ofNat (c.name.length + 1) then doubled r.namesCapacity
          else some r.namesCapacity) = some namesCapacity ∧
          r.namePtr.toNat + (c.name.length + 1) ≤ namesCapacity.toNat := by
      obtain ⟨k, hlo, -, hk⟩ := h.names
      have hbig : 2 ^ 11 ≤ 2 ^ k := Nat.pow_le_pow_right (by decide) hlo
      by_cases hless : r.namesCapacity - r.namePtr < UInt32.ofNat (c.name.length + 1)
      · have hless' := (hleft _ hfit).mp hless
        obtain ⟨larger, hlarger⟩ := h.names.double_isSome (by omega)
        have htwice := (h.names.double hlarger).2
        exact ⟨larger, by rw [if_pos hless, hlarger], by omega⟩
      · exact ⟨r.namesCapacity, if_neg hless, by have := mt (hleft _ hfit).mpr hless; omega⟩
    have hroom : ¬ namesCapacity - r.namePtr < UInt32.ofNat (c.name.length + 1) := by
      rw [hleft _ (by omega)]
      omega
    obtain ⟨entriesCapacity, hentries⟩ : ∃ entriesCapacity,
        (if r.entryPtr + 1 = r.entriesCapacity then doubled r.entriesCapacity else some r.entriesCapacity) =
          some entriesCapacity := by
      by_cases hfull : r.entryPtr + 1 = r.entriesCapacity
      · have hlt : r.entriesCapacity.toNat < 2 ^ 31 := by
          rw [← hfull, UInt32.toNat_add, UInt32.toNat_one, h.counted]
          omega
        obtain ⟨larger, hlarger⟩ := h.entries.double_isSome hlt
        exact ⟨larger, by rw [if_pos hfull, hlarger]⟩
      · exact ⟨_, if_neg hfull⟩
    have hone : Hostfs.keepEntry r c = some
        { kept := r.kept ++ [c]
          entryPtr := r.entryPtr + 1
          namePtr := r.namePtr + UInt32.ofNat (c.name.length + 1)
          entriesCapacity := entriesCapacity
          namesCapacity := namesCapacity } := by
      unfold Hostfs.keepEntry
      dsimp only
      rw [hcap, Option.bind_some, if_neg hroom, hentries, Option.map_some]
    obtain ⟨hok, -⟩ := h.keepEntry hone
    have hptr : (r.namePtr + UInt32.ofNat (c.name.length + 1)).toNat = r.namePtr.toNat + (c.name.length + 1) := by
      rw [UInt32.toNat_add, hspace]
      omega
    rw [Hostfs.keepEntries, hone, Option.bind_some]
    refine ih hok ?_ hshort.2 ?_ ?_
    · dsimp only
      rw [hptr]
      exact hcapfits
    · dsimp only
      rw [hptr]
      omega
    · dsimp only
      rw [List.length_append, List.length_singleton]
      omega

/-! ## One call -/

/-- An empty cache of the sizes it grows by. -/
structure CacheOk (cache : DirectoryCache) : Prop where
  cached : cache.cachedDirectory = []
  entries : Power 0 cache.entriesCapacity
  names : Power 11 cache.namesCapacity

lemma cacheOk_start : CacheOk .start := ⟨rfl, ⟨7, by decide⟩, ⟨11, by decide⟩⟩

section Call

variable {qsort : List CacheDirectoryEntry → List CacheDirectoryEntry} {lp64Linux : Bool} {h : Host} {dir : Name}
  {cache cache' : DirectoryCache} {c : ReadDirCall} {r4 : UInt32} {a : Answer} {entries : List Name}

lemma CacheOk.reading (hok : CacheOk cache) : Reading.Ok ⟨[], 0, 0, cache.entriesCapacity, cache.namesCapacity⟩ := by
  refine ⟨hok.entries, hok.names, rfl, ?_⟩
  obtain ⟨k, -, -, hk⟩ := hok.entries
  rw [hk]
  exact Nat.two_pow_pos k

/-- **A directory is cached** whole, whatever was in the cache. -/
lemma CacheOk.cacheDir (hok : CacheOk cache) (hcache : hostfsCacheDirInto qsort lp64Linux h dir cache = some cache') :
    CacheOk cache' ∧ ∃ entries, h.readdir dir = some entries ∧
      cache'.entries = qsort (entries.filterMap (cacheEntry lp64Linux h dir)) ∧
        (entries.filterMap (cacheEntry lp64Linux h dir)).length < 2 ^ 31 := by
  obtain ⟨entries, hopen, hmap⟩ := Option.bind_eq_some_iff.mp hcache
  obtain ⟨r, hr, rfl⟩ := Option.map_eq_some_iff.mp hmap
  obtain ⟨hrok, hkept⟩ := hok.reading.keepEntries hr
  rw [List.nil_append] at hkept
  refine ⟨⟨hok.cached, hrok.entries, hrok.names⟩, entries, hopen, by rw [← hkept], ?_⟩
  obtain ⟨k, -, hk, hcap⟩ := hrok.entries
  have hroom := hrok.room
  have hpow : 2 ^ k ≤ 2 ^ 31 := Nat.pow_le_pow_right (by decide) (by omega)
  rw [← hkept]
  omega

lemma CacheOk.readDirCall (hok : CacheOk cache)
    (hcall : readDirCall qsort lp64Linux c r4 cache = some (cache', a)) : CacheOk cache' := by
  unfold Hostfs.readDirCall at hcall
  dsimp only at hcall
  split at hcall
  · obtain ⟨cache₁, hcache, hsame⟩ := Option.map_eq_some_iff.mp hcall
    obtain ⟨rfl, -⟩ := Prod.mk.inj hsame
    split at hcache
    · exact (hok.cacheDir hcache).1
    · exact Option.some.inj hcache ▸ hok
  · obtain ⟨rfl, -⟩ := Prod.mk.inj (Option.some.inj hcall)
    exact hok

lemma CacheOk.afterOthers {others : List (ReadDirCall × UInt32)} (hok : CacheOk cache)
    (hothers : afterOthers qsort lp64Linux cache others = some cache') : CacheOk cache' := by
  induction others generalizing cache with
  | nil => exact Option.some.inj hothers ▸ hok
  | cons o others ih =>
    obtain ⟨p, hone, hrest⟩ := Option.bind_eq_some_iff.mp hothers
    exact ih (hok.readDirCall hone) hrest

lemma returnEntries_take (withInfo withTimestamp : Bool) (num remaining : Nat) (es : List CacheDirectoryEntry) :
    es.take (returnEntries withInfo withTimestamp num remaining es).length =
        returnEntries withInfo withTimestamp num remaining es ∧
      (returnEntries withInfo withTimestamp num remaining es).length ≤ num := by
  induction es generalizing num remaining with
  | nil => cases num <;> simp [returnEntries]
  | cons e es ih =>
    cases num with
    | zero => simp [returnEntries]
    | succ num =>
      rw [returnEntries]
      split
      · simp
      · obtain ⟨htake, hnum⟩ := ih num (remaining - entrySpace withInfo withTimestamp e.name)
        simp [htake, hnum]

lemma ReadDirCall.fits_ne_nil {es : List CacheDirectoryEntry} {e : CacheDirectoryEntry} (hasked : 1 ≤ c.r3.toNat)
    (hroom : entrySpace c.withInfo c.withTimestamp e.name ≤ c.r5.toNat) : c.fits (e :: es) ≠ [] := by
  obtain ⟨n, hn⟩ : ∃ n, c.r3.toNat = n + 1 := ⟨c.r3.toNat - 1, by omega⟩
  rw [ReadDirCall.fits, hn, returnEntries, if_neg (by omega)]
  exact List.cons_ne_nil _ _

lemma Reads.call (hreads : Reads lp64Linux h dir c) (hdir : dir ≠ []) (hok : CacheOk cache) :
    readDirCall qsort lp64Linux c r4 cache = (hostfsCacheDirInto qsort lp64Linux c.host dir cache).map fun cache =>
      let f := fillLoop c.withInfo c.withTimestamp c.r3 (cache.entries.drop r4.toNat) ⟨c.r5, 0, r4, c.r2, c.mem⟩
      (cache, ⟨f.count, if UInt32.ofNat cache.entries.length ≤ f.offset ∧ f.count = 0 then 0xffffffff else f.offset,
        f.mem⟩) := by
  obtain ⟨⟨type, load, exec, length, attribs⟩, hinfo, htype⟩ := hreads.directory
  obtain rfl : type = .directory := htype
  rw [Hostfs.readDirCall]
  dsimp only
  rw [hinfo, hreads.path]
  dsimp only
  rw [if_pos (Or.inl (by rw [hok.cached]; exact hdir))]

/-- **One call** of an enumeration, from an offset that is in the listing or at its end: it returns the entries there
is room for, from the offset on, and is then at the next; or it is at the end, and says so. -/
lemma readDirCall_eq (hperm : ∀ l, (qsort l).length = l.length) (hreads : Reads lp64Linux h dir c) (hdir : dir ≠ [])
    (hopen : h.readdir dir = some entries) (hok : CacheOk cache)
    (hcall : readDirCall qsort lp64Linux c r4 cache = some (cache', a)) {listing : List CacheDirectoryEntry}
    (hlisting : listing = qsort (entries.filterMap (cacheEntry lp64Linux h dir)))
    (hr4 : r4.toNat ≤ listing.length)
    (hroom : ∀ e ∈ listing[r4.toNat]?, entrySpace c.withInfo c.withTimestamp e.name ≤ c.r5.toNat) :
    a.r3.toNat = (c.fits (listing.drop r4.toNat)).length ∧
      (listing.drop r4.toNat).take a.r3.toNat = c.fits (listing.drop r4.toNat) ∧
      Laid (entryBytes c.withInfo c.withTimestamp) (entrySpace c.withInfo c.withTimestamp) a.mem c.r2
        (c.fits (listing.drop r4.toNat)) ∧
      (∀ address : UInt32, c.r5.toNat ≤ (address - c.r2).toNat → a.mem address = c.mem address) ∧
      (a.r4 = 0xffffffff ∧ r4.toNat = listing.length ∧ a.r3.toNat = 0 ∨
        a.r4 ≠ 0xffffffff ∧ 0 < a.r3.toNat ∧ a.r4.toNat = r4.toNat + a.r3.toNat ∧
          a.r4.toNat ≤ listing.length) := by
  rw [hreads.call hdir hok] at hcall
  obtain ⟨cache₁, hcache, hsame⟩ := Option.map_eq_some_iff.mp hcall
  obtain ⟨rfl, rfl⟩ := Prod.mk.inj hsame
  obtain ⟨-, entries', hopen', hentries, hcount⟩ := hok.cacheDir hcache
  have hlist : cache₁.entries = listing := by
    obtain rfl : entries = entries' := Option.some.inj (hopen.symm.trans (hreads.readdir.symm.trans hopen'))
    rw [hlisting, hentries, List.filterMap_congr fun e _ => hreads.same e]
  have hlen : listing.length < 2 ^ 31 := by rw [← hlist, hentries, hperm]; exact hcount
  obtain ⟨hc, ho, hl, hm⟩ := fillLoop_eq c.withInfo c.withTimestamp c.r3
    (listing.drop r4.toNat) ⟨c.r5, 0, r4, c.r2, c.mem⟩ fun _ => hreads.aligned
  have hfirst : c.r3.toNat - (0 : UInt32).toNat = c.r3.toNat := Nat.sub_zero _
  dsimp only at hc ho hl hm
  rw [hfirst] at hc ho hl
  have hfits : returnEntries c.withInfo c.withTimestamp c.r3.toNat c.r5.toNat (listing.drop r4.toNat) =
      c.fits (listing.drop r4.toNat) := rfl
  obtain ⟨htake, hnum⟩ := returnEntries_take c.withInfo c.withTimestamp c.r3.toNat c.r5.toNat (listing.drop r4.toNat)
  rw [hfits] at hc ho hl htake hnum
  have hmost : (c.fits (listing.drop r4.toNat)).length ≤ listing.length - r4.toNat := by
    rw [← htake, ← List.length_drop]
    exact List.length_take_le' _ _
  rw [hlist]
  generalize fillLoop c.withInfo c.withTimestamp c.r3 (listing.drop r4.toNat) ⟨c.r5, 0, r4, c.r2, c.mem⟩ = f
    at hc ho hl hm ⊢
  have hsize : UInt32.size = 2 ^ 32 := rfl
  have hcountNat : f.count.toNat = (c.fits (listing.drop r4.toNat)).length := by
    rw [hc, zero_add, UInt32.toNat_ofNat_of_lt' (by omega)]
  have hoffsetNat : f.offset.toNat = r4.toNat + (c.fits (listing.drop r4.toNat)).length := by
    have hsmall : (UInt32.ofNat (c.fits (listing.drop r4.toNat)).length).toNat =
        (c.fits (listing.drop r4.toNat)).length := UInt32.toNat_ofNat_of_lt' (by omega)
    rw [ho, UInt32.toNat_add, hsmall]
    omega
  have hlistNat : (UInt32.ofNat listing.length).toNat = listing.length := UInt32.toNat_ofNat_of_lt' (by omega)
  dsimp only
  refine ⟨hcountNat, by rw [hcountNat, htake], hl, hm, ?_⟩
  rcases Nat.lt_or_ge r4.toNat listing.length with hlt | hge
  · -- an entry is left, and there is room for it
    right
    have hne : c.fits (listing.drop r4.toNat) ≠ [] := by
      rw [List.drop_eq_getElem_cons hlt]
      exact ReadDirCall.fits_ne_nil hreads.asked (hroom _ (List.getElem?_eq_getElem hlt))
    have hpos : 0 < f.count.toNat := by
      rw [hcountNat]
      exact List.length_pos_iff.mpr hne
    have hnonzero : f.count ≠ 0 := fun hzero => absurd hpos (by rw [hzero]; decide)
    rw [if_neg fun hboth => hnonzero hboth.2]
    refine ⟨fun hminus => ?_, hpos, by omega, by omega⟩
    rw [hminus] at hoffsetNat
    have hbig : (0xffffffff : UInt32).toNat = 2 ^ 32 - 1 := rfl
    omega
  · left
    have hzero : f.count = 0 := UInt32.toNat_inj.mp (by rw [hcountNat, UInt32.toNat_zero]; omega)
    rw [if_pos ⟨by rw [UInt32.le_iff_toNat_le, hlistNat]; omega, hzero⟩]
    exact ⟨rfl, by omega, by rw [hzero]; rfl⟩

/-- **A call with its statics and its stores** is the call that says what is returned: the same registers, and the
bytes of those entries. -/
theorem readDirCall_hostfsReadDir (hreads : Reads lp64Linux h dir c) (hdir : dir ≠ []) (hok : CacheOk cache)
    (hcall : readDirCall nameSort lp64Linux c r4 cache = some (cache', a)) :
    ∃ reply, hostfsReadDir lp64Linux c.host c.discs c.roPath c.r3 r4 c.r5 c.withInfo c.withTimestamp = some reply ∧
      a.r3 = reply.r3 ∧ a.r4 = reply.r4 ∧
        Laid (entryBytes c.withInfo c.withTimestamp) (entrySpace c.withInfo c.withTimestamp) a.mem c.r2
          reply.entries := by
  rw [hreads.call hdir hok] at hcall
  obtain ⟨cache₁, hcache, hsame⟩ := Option.map_eq_some_iff.mp hcall
  obtain ⟨rfl, rfl⟩ := Prod.mk.inj hsame
  obtain ⟨-, entries, hopen, hentries, hcount⟩ := hok.cacheDir hcache
  obtain ⟨⟨type, load, exec, length, attribs⟩, hinfo, htype⟩ := hreads.directory
  obtain rfl : type = .directory := htype
  have hcached : hostfsCacheDir lp64Linux c.host dir = some cache₁.entries := by
    rw [hostfsCacheDir, hopen, Option.map_some, hentries]
    rfl
  obtain ⟨hc, ho, hl, -⟩ := fillLoop_eq c.withInfo c.withTimestamp c.r3
    (cache₁.entries.drop r4.toNat) ⟨c.r5, 0, r4, c.r2, c.mem⟩ fun _ => hreads.aligned
  have hfirst : c.r3.toNat - (0 : UInt32).toNat = c.r3.toNat := Nat.sub_zero _
  dsimp only at hc ho hl
  rw [hfirst] at hc ho hl
  have hnum := (returnEntries_take c.withInfo c.withTimestamp c.r3.toNat c.r5.toNat (cache₁.entries.drop r4.toNat)).2
  rw [hostfsReadDir]
  dsimp only
  rw [hinfo, hreads.path]
  dsimp only
  rw [hcached, Option.map_some]
  refine ⟨_, rfl, by rw [hc, zero_add], ?_, hl⟩
  have hlen : cache₁.entries.length < 2 ^ 31 := by
    rw [hentries, nameSort, List.length_insertionSort]
    exact hcount
  have hlenNat : (UInt32.ofNat cache₁.entries.length).toNat = cache₁.entries.length :=
    UInt32.toNat_ofNat_of_lt' (lt_trans hlen (by decide))
  have hr3 := c.r3.toNat_lt
  have hnone : ∀ es : List CacheDirectoryEntry, es.length < 2 ^ 32 → (0 + UInt32.ofNat es.length = 0 ↔ es = []) := by
    intro es hes
    rw [zero_add, ← UInt32.toNat_inj, UInt32.toNat_ofNat_of_lt' hes, UInt32.toNat_zero, List.length_eq_zero_iff]
  simp only [hc, ho, UInt32.le_iff_toNat_le, hlenNat, hnone _ (lt_of_le_of_lt hnum hr3)]

lemma Reads.call_isSome (hreads : Reads lp64Linux h dir c)
    (qsort : List CacheDirectoryEntry → List CacheDirectoryEntry) (r4 : UInt32) (hdir : dir ≠ [])
    (hopen : h.readdir dir = some entries)
    (hok : CacheOk cache) (hhold : Holdable (entries.filterMap (cacheEntry lp64Linux h dir))) :
    ∃ p, Hostfs.readDirCall qsort lp64Linux c r4 cache = some p := by
  have hkeep := hok.reading.keepEntries_isSome (Nat.zero_le _) hhold.short (by simpa using hhold.names)
    (by simpa using hhold.count)
  obtain ⟨r, hr⟩ := hkeep
  rw [hreads.call hdir hok, hostfsCacheDirInto, hreads.readdir, hopen, Option.bind_some,
    List.filterMap_congr fun e _ => hreads.same e, hr, Option.map_some, Option.map_some]
  exact ⟨_, rfl⟩

end Call

/-! ## The run -/

section Run

variable {qsort : List CacheDirectoryEntry → List CacheDirectoryEntry} {lp64Linux : Bool} {h : Host} {dir : Name}
  {entries : List Name} {listing : List CacheDirectoryEntry}

/-- **The calls from an offset on**, by induction on them: what they return, and when it is what it is to be. -/
lemma enumerate_from (hperm : ∀ l, (qsort l).length = l.length) (hdir : dir ≠ [])
    (hopen : h.readdir dir = some entries)
    (hlisting : listing = qsort (entries.filterMap (cacheEntry lp64Linux h dir))) (visits : List Visit)
    {cache : DirectoryCache} {r4 : UInt32} (hok : CacheOk cache) (hr4 : r4.toNat ≤ listing.length)
    (hreads : ∀ v ∈ visits, Reads lp64Linux h dir v.call) (hroom : Roomy listing r4.toNat visits)
    {answers : List (ReadDirCall × Answer)} {ending : Ending}
    (hrun : enumerate qsort lp64Linux cache r4 visits = (answers, ending)) :
    (Delivered listing r4.toNat answers ↔ Timely listing r4.toNat (answers.map Prod.fst)) ∧
      r4.toNat + returned answers ≤ listing.length ∧
      (ending = .ended → r4.toNat + returned answers = listing.length) ∧
      (listing.length < r4.toNat + visits.length → ending ≠ .going) ∧
      (∀ p ∈ answers, ∀ address : UInt32, p.1.r5.toNat ≤ (address - p.1.r2).toNat →
        p.2.mem address = p.1.mem address) ∧
      (Holdable (entries.filterMap (cacheEntry lp64Linux h dir)) → ending ≠ .fatal) := by
  induction visits generalizing cache r4 answers ending with
  | nil =>
    obtain ⟨rfl, rfl⟩ := Prod.mk.inj hrun
    refine ⟨Iff.rfl, by simpa [returned] using hr4, nofun, fun hlt => ?_,
      fun p hp => absurd hp List.not_mem_nil, fun _ => nofun⟩
    exact absurd hlt (by simpa using hr4)
  | cons v visits ih =>
    obtain ⟨hroomv, hroom⟩ := hroom
    have hreadsv := hreads v List.mem_cons_self
    rw [enumerate] at hrun
    cases hothers : afterOthers qsort lp64Linux cache v.others with
    | none =>
      rw [hothers] at hrun
      obtain ⟨rfl, rfl⟩ := Prod.mk.inj hrun
      exact ⟨Iff.rfl, by simpa [returned] using hr4, nofun, fun _ => nofun,
        fun p hp => absurd hp List.not_mem_nil, fun _ => nofun⟩
    | some cache₁ =>
      have hok₁ := hok.afterOthers hothers
      rw [hothers] at hrun
      dsimp only at hrun
      cases hcall : readDirCall qsort lp64Linux v.call r4 cache₁ with
      | none =>
        rw [hcall] at hrun
        obtain ⟨rfl, rfl⟩ := Prod.mk.inj hrun
        refine ⟨Iff.rfl, by simpa [returned] using hr4, nofun, fun _ => nofun,
          fun p hp => absurd hp List.not_mem_nil, fun hhold _ => ?_⟩
        obtain ⟨p, hp⟩ := hreadsv.call_isSome qsort r4 hdir hopen hok₁ hhold
        rw [hcall] at hp
        cases hp
      | some p =>
        obtain ⟨cache₂, a⟩ := p
        have hok₂ := hok₁.readDirCall hcall
        obtain ⟨hr3, htake, hlaid, hbounded, hnext⟩ :=
          readDirCall_eq hperm hreadsv hdir hopen hok₁ hcall hlisting hr4 hroomv
        have hrecords := laid_iff hlaid
        rw [hcall] at hrun
        dsimp only at hrun
        rcases hnext with ⟨hminus, hend, hzero⟩ | ⟨hmore, hpos, hoffset, hle⟩
        · rw [if_pos hminus] at hrun
          obtain ⟨rfl, rfl⟩ := Prod.mk.inj hrun
          refine ⟨?_, by simp [returned, hzero, hend], fun _ => by simp [returned, hzero, hend],
            fun _ => nofun, ?_, fun _ => nofun⟩
          · rw [List.map_singleton, Delivered, Timely, htake, hrecords]
            simp [Delivered, Timely]
          · intro p hp
            rw [List.mem_singleton.mp hp]
            exact hbounded
        · rw [if_neg hmore] at hrun
          generalize hrest : enumerate qsort lp64Linux cache₂ a.r4 visits = rest at hrun
          obtain ⟨answers', ending'⟩ := rest
          obtain ⟨rfl, rfl⟩ := Prod.mk.inj hrun
          rw [← hr3, ← hoffset] at hroom
          obtain ⟨hiff, hmost, hwhole, hends, hpast, hhold⟩ :=
            ih hok₂ hle (fun w hw => hreads w (List.mem_cons_of_mem v hw)) hroom hrest
          dsimp only
          have hsum : returned ((v.call, a) :: answers') = a.r3.toNat + returned answers' := by simp [returned]
          refine ⟨?_, by omega, fun hended => by have := hwhole hended; omega, fun hlt => hends ?_, ?_, hhold⟩
          · rw [List.map_cons, Delivered, Timely, htake, hrecords, ← hr3, ← hoffset, hiff]
          · rw [List.length_cons] at hlt
            omega
          · intro p hp
            rcases List.mem_cons.mp hp with rfl | hp
            · exact hbounded
            · exact hpast p hp

end Run

/-- **When a directory is enumerated as it is**: just where no entry that is given with its time has a time whose
bytes differ.  For a directory that is as it was whenever it is read, whatever is read in between, and buffers that
each start at a word and have room for the entry that is next.  The listing has each entry that there is anything to
read of once, in order of name; and no call fails that has its names to keep. -/
theorem enumerated_iff {qsort : List CacheDirectoryEntry → List CacheDirectoryEntry} (hsorts : Sorts qsort)
    (lp64Linux : Bool) (h : Host) {dir : Name} (hdir : dir ≠ []) {entries : List Name}
    (hopen : h.readdir dir = some entries) (visits : List Visit)
    (hreads : ∀ v ∈ visits, Reads lp64Linux h dir v.call)
    (hroom : Roomy (qsort (entries.filterMap (cacheEntry lp64Linux h dir))) 0 visits) :
    (qsort (entries.filterMap (cacheEntry lp64Linux h dir))).Perm (entries.filterMap (cacheEntry lp64Linux h dir)) ∧
      (qsort (entries.filterMap (cacheEntry lp64Linux h dir))).Pairwise (fun a b => casecmpLe a.name b.name = true) ∧
      (Holdable (entries.filterMap (cacheEntry lp64Linux h dir)) →
        (enumerate qsort lp64Linux .start 0 visits).2 ≠ .fatal) ∧
      (Enumerated (qsort (entries.filterMap (cacheEntry lp64Linux h dir))) visits
          (enumerate qsort lp64Linux .start 0 visits) ↔
        Timely (qsort (entries.filterMap (cacheEntry lp64Linux h dir))) 0
          ((enumerate qsort lp64Linux .start 0 visits).1.map Prod.fst)) := by
  obtain ⟨hperm, hsorted⟩ := hsorts (entries.filterMap (cacheEntry lp64Linux h dir))
  have hzero : (0 : UInt32).toNat = 0 := rfl
  rw [← hzero] at hroom
  obtain ⟨hiff, hmost, hwhole, hends, hbounded, hhold⟩ :=
    enumerate_from (fun l => (hsorts l).1.length_eq) hdir hopen rfl visits cacheOk_start
      (Nat.zero_le _) hreads hroom (Prod.eta (enumerate qsort lp64Linux .start 0 visits)).symm
  rw [hzero, Nat.zero_add] at hmost hwhole hends
  exact ⟨hperm, hsorted, hhold, fun hall => hiff.mp hall.delivered,
    fun htimely => ⟨hiff.mpr htimely, hmost, hwhole, hends, hbounded⟩⟩

lemma sorts_nameSort : Sorts nameSort := by
  intro l
  have : Std.Total fun a b : CacheDirectoryEntry => casecmpLe a.name b.name = true :=
    ⟨fun a b => by simp only [casecmpLe, decide_eq_true_eq]; exact List.le_total _ _⟩
  have : IsTrans CacheDirectoryEntry fun a b => casecmpLe a.name b.name = true :=
    ⟨fun a b c hab hbc => by simp only [casecmpLe, decide_eq_true_eq] at *; exact List.le_trans hab hbc⟩
  exact ⟨List.perm_insertionSort _ l, List.pairwise_insertionSort _ l⟩

def oneFile (withInfo : Bool) : ReadDirCall where
  host := oneDir [ext "readme"] (by decide)
  discs := oneDisc
  roPath := ext "$"
  mem := fun _ => 0
  r2 := 0x8000
  r3 := 10
  r5 := 100
  withInfo := withInfo
  withTimestamp := withInfo

lemma reads_oneFile (withInfo : Bool) :
    Reads true (oneDir [ext "readme"] (by decide)) (ext "/h") (oneFile withInfo) where
  path := by cases withInfo <;> rfl
  directory := by cases withInfo <;> exact ⟨_, rfl, rfl⟩
  readdir := by cases withInfo <;> rfl
  same := by cases withInfo <;> exact fun _ => rfl
  asked := by cases withInfo <;> decide
  aligned := by cases withInfo <;> decide

lemma roomy_oneFile (withInfo : Bool) : ∀ e ∈ [(⟨ext "readme", plainInfo⟩ : CacheDirectoryEntry)][0]?,
    entrySpace (oneFile withInfo).withInfo (oneFile withInfo).withTimestamp e.name ≤ (oneFile withInfo).r5.toNat := by
  intro e he
  obtain rfl := Option.some.inj he
  cases withInfo <;> decide

theorem enumerated_names :
    Enumerated [⟨ext "readme", plainInfo⟩] [⟨[], oneFile false⟩, ⟨[], oneFile false⟩]
      (enumerate nameSort true .start 0 [⟨[], oneFile false⟩, ⟨[], oneFile false⟩]) := by
  have hreads : ∀ v ∈ [(⟨[], oneFile false⟩ : Visit), ⟨[], oneFile false⟩],
      Reads true (oneDir [ext "readme"] (by decide)) (ext "/h") v.call := by
    intro v hv
    obtain rfl : v = ⟨[], oneFile false⟩ := by simpa using hv
    exact reads_oneFile false
  have hcalls : (enumerate nameSort true .start 0 [⟨[], oneFile false⟩, ⟨[], oneFile false⟩]).1.map Prod.fst =
      [oneFile false, oneFile false] := rfl
  have hlisting :
      nameSort ([ext "readme"].filterMap (cacheEntry true (oneDir [ext "readme"] (by decide)) (ext "/h"))) =
        [⟨ext "readme", plainInfo⟩] := rfl
  have hdir : ext "/h" ≠ [] := by decide
  have hopen : (oneDir [ext "readme"] (by decide)).readdir (ext "/h") = some [ext "readme"] := rfl
  have hiff := (enumerated_iff sorts_nameSort true (oneDir [ext "readme"] (by decide)) hdir hopen
    [⟨[], oneFile false⟩, ⟨[], oneFile false⟩] hreads
    ⟨roomy_oneFile false, fun e he => (by cases he), trivial⟩).2.2.2
  rw [hcalls, hlisting] at hiff
  exact hiff.mpr ⟨fun hinfo => absurd hinfo (by decide), fun hinfo => absurd hinfo (by decide), trivial⟩

theorem not_enumerated_times :
    Reads true (oneDir [ext "readme"] (by decide)) (ext "/h") (oneFile true) ∧
      Roomy [⟨ext "readme", plainInfo⟩] 0 [⟨[], oneFile true⟩] ∧
        ¬ Enumerated [⟨ext "readme", plainInfo⟩] [⟨[], oneFile true⟩]
          (enumerate nameSort true .start 0 [⟨[], oneFile true⟩]) := by
  refine ⟨reads_oneFile true, ⟨roomy_oneFile true, trivial⟩, fun hall => ?_⟩
  obtain ⟨⟨hrecord, -⟩, -⟩ := hall.delivered
  exact absurd hrecord (by decide)

end RpcEmu.Hostfs
