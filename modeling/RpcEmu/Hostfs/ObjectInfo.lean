import Mathlib.Tactic.IntervalCases
import RpcEmu.Hostfs.Suffix

/-!
# A file's name and type on the host

`path_construct` makes the host path of a file that is saved, created, renamed or given a new type, and
`hostfs_read_object_info` and `host_leaf_to_ro_leaf` read the name and the type back from it.  Beside the path
they look at what `stat` says of the file, which is a parameter.

`name_and_type_kept` says when both come back.  A Text file has nothing behind its name, so a name that ends like one with a
suffix, or with an extension the reader knows, is taken at its word.
-/

namespace RpcEmu.Hostfs

open Hex SplitLast

/-! ## What the host says of a file -/

/-- `struct timespec`. -/
structure Timespec where
  sec : Int
  nsec : Nat
  nsec_lt : nsec < 1000000000

inductive FileMode
  | regular | directory | other
  deriving DecidableEq

/-- What is used of `struct stat`. -/
structure Stat where
  mode : FileMode
  mtim : Timespec
  size : Nat

/-- `OBJECT_TYPE`, of an object that is found. -/
inductive ObjectType
  | file | directory
  deriving DecidableEq

/-- `risc_os_object_info`. -/
structure ObjectInfo where
  type : ObjectType
  load : UInt32
  exec : UInt32
  length : UInt32
  attribs : UInt32 := 0
  deriving DecidableEq

/-- `hostfs_timespec64_to_risc_os_time`. -/
def hostfsTimespec64ToRiscOsTime (t : Timespec) : UInt32 × UInt32 :=
  if t.sec < -2208988800 then (0, 0)
  else if 8786127477 < t.sec ∨ t.sec = 8786127477 ∧ 750000000 ≤ t.nsec then (0xff, 0xfffffffe)
  else
    let centiseconds := t.sec * 100 + (t.nsec / 10000000 : Nat)
    let roTime := (centiseconds + 0x336e996a00).toNat
    (UInt32.ofNat (roTime / 2 ^ 32), UInt32.ofNat roTime)

/-- `hostfs_time_t_to_risc_os_time`. -/
def hostfsTimeTToRiscOsTime (t : Int) : UInt32 × UInt32 :=
  let low : UInt32 := UInt32.ofInt (t % 256 * 100)
  let high : UInt32 := UInt32.ofInt (t.tdiv 256 * 100) + (low >>> 8) + 0x336e996a
  (high >>> 24, (low &&& (0xff : UInt32)) ||| (high <<< 8))

/-- `hostfs_struct_stat_to_risc_os_time`, on a 64-bit Linux or elsewhere. -/
def hostfsStructStatToRiscOsTime (lp64Linux : Bool) (s : Stat) : UInt32 × UInt32 :=
  if lp64Linux then hostfsTimespec64ToRiscOsTime s.mtim else hostfsTimeTToRiscOsTime s.mtim.sec

/-- `hostfs_read_object_info_platform`. -/
def hostfsReadObjectInfoPlatform (lp64Linux : Bool) (stat : Name → Option Stat) (hostPathname : Name) :
    Option ObjectInfo :=
  (stat hostPathname).bind fun s =>
    let (load, exec) := hostfsStructStatToRiscOsTime lp64Linux s
    match s.mode with
    | .regular => some { type := .file, load := load, exec := exec, length := UInt32.ofNat s.size }
    | .directory => some { type := .directory, load := load, exec := exec, length := UInt32.ofNat s.size }
    | .other => none

/-! ## Reading -/

/-- `hostfs_read_object_info`, with the leafname for RISC OS. -/
def hostfsReadObjectInfo (lp64Linux : Bool) (stat : Name → Option Stat) (hostPathname : Name) :
    Option (ObjectInfo × Option Name) :=
  (hostfsReadObjectInfoPlatform lp64Linux stat hostPathname).map fun info =>
    let leaf := match splitLast 0x2f hostPathname with
      | some (_, leaf) => leaf
      | none => hostPathname
    let typed : UInt32 → ObjectInfo := fun fileType =>
      { info with load := info.load ||| ((0xfff00000 : UInt32) ||| (fileType <<< 8)) }
    let info : ObjectInfo := match leafSuffix leaf with
      | some (_, .loadExec load exec) => { info with load := load, exec := exec }
      | some (_, .filetype fileType) => typed fileType
      | none =>
        -- nothing has said what this file is
        if info.type = .file then typed ((hostfsFiletypeFromLeafname hostPathname).getD defaultFileType)
        else typed defaultFileType
    ({ info with attribs := 0x03 }, (splitLast 0x2f hostPathname).map fun p => hostLeafToRoLeaf p.2)

/-! ## Writing -/

def hostDir (oldPath : Name) : Name :=
  match splitLast 0x2f oldPath with
  | some (dir, _) => dir ++ [0x2f]
  | none => oldPath ++ [0x2f]

/-- `path_construct`: nothing where there is no room for the old path, or where the leaf names a directory. -/
def pathConstruct (root oldPath roPath : Name) (len : Nat) (load exec : UInt32) : Name :=
  if len ≤ oldPath.length then []
  else
    let roLeaf := match splitLast 0x2e roPath with
      | some (_, leaf) => leaf
      | none => roPath
    if (splitLast 0x2f oldPath).isNone && len < oldPath.length + 2 then []
    else
      let newLeaf := riscosPathToHost root roLeaf (len - (hostDir oldPath).length - 1)
      if newLeaf = [0x2e] ∨ newLeaf = [0x2e, 0x2e] then []
      else
        let newPath := hostDir oldPath ++ newLeaf
        newPath ++ (typeSuffix load exec).take (len - newPath.length - 1)

/-- The old path and the new one fit the buffer. -/
structure Fits (oldPath leaf : Name) (len : Nat) (load exec : UInt32) : Prop where
  old : oldPath.length < len
  new : (hostDir oldPath).length + hostLength leaf + (typeSuffix load exec).length < len

/-- **The name and the type are read back** from a host path: by whatever looks at the leaf, and of the file
that is there. -/
def ReadBack (newPath leaf : Name) (load exec : UInt32) : Prop :=
  ∃ dir hostLeaf, splitLast 0x2f newPath = some (dir, hostLeaf) ∧ hostLeafToRoLeaf hostLeaf = leaf ∧
    ∀ (lp64Linux : Bool) (stat : Name → Option Stat) (s : Stat), stat newPath = some s → s.mode = .regular →
      ∃ info, hostfsReadObjectInfo lp64Linux stat newPath = some (info, some leaf) ∧
        if dateStamped load then dateStamped info.load = true ∧ filetype info.load = filetype load
        else info.load = load ∧ info.exec = exec

/-! ## The path that is built -/

section Built

variable {root oldPath leaf : Name} {len : Nat} {load exec : UInt32}

lemma hostDir_eq (oldPath : Name) : ∃ dir, hostDir oldPath = dir ++ [0x2f] := by
  unfold hostDir
  split
  · exact ⟨_, rfl⟩
  · exact ⟨_, rfl⟩

/-- **Where it fits**, the path is the directory, the host's name and the type, unless the leaf names a
directory. -/
lemma pathConstruct_eq (roDir : Name) (hleaf : IsLeafname leaf) (hfits : Fits oldPath leaf len load exec) :
    pathConstruct root oldPath (roDir ++ 0x2e :: leaf) len load exec =
      if hostName leaf = [0x2e] ∨ hostName leaf = [0x2e, 0x2e] then []
      else hostDir oldPath ++ (hostName leaf ++ typeSuffix load exec) := by
  have hdot : (0x2e : UInt8) ∉ leaf := fun hmem => absurd (hleaf _ hmem) (by decide)
  have hold : ¬len ≤ oldPath.length := Nat.not_le.mpr hfits.old
  have hnew := hfits.new
  have hseparator : ¬((splitLast 0x2f oldPath).isNone && decide (len < oldPath.length + 2)) = true := by
    cases hsplit : splitLast 0x2f oldPath with
    | some p => simp
    | none =>
      have hdir : (hostDir oldPath).length = oldPath.length + 1 := by
        rw [hostDir, hsplit]
        simp
      simp only [Option.isNone_none, Bool.true_and, decide_eq_true_eq]
      omega
  have hroom : (hostName leaf).length ≤ len - (hostDir oldPath).length - 1 := by
    rw [length_hostName]
    omega
  have htake : (typeSuffix load exec).take (len - (hostDir oldPath ++ hostName leaf).length - 1) =
      typeSuffix load exec := by
    refine List.take_of_length_le ?_
    rw [List.length_append, length_hostName]
    omega
  unfold pathConstruct
  rw [if_neg hold, splitLast_append_cons hdot]
  dsimp only
  rw [if_neg hseparator, riscosPathToHost_eq hleaf hroom, htake, List.append_assoc]

lemma looks_of_directory (hleaf : IsLeafname leaf) (hnames : hostName leaf = [0x2e] ∨ hostName leaf = [0x2e, 0x2e]) :
    looksSuffixed leaf = false ∧ looksTyped leaf = false := by
  have hback := nameHostToRiscos_hostName hleaf
  rcases hnames with hname | hname
  all_goals
    rw [hname] at hback
    rw [← hback]
    decide

end Built

/-! ## What is read of it -/

section Read

variable {leaf : Name} {load exec : UInt32}

lemma load_lt (lp64Linux : Bool) (s : Stat) : (hostfsStructStatToRiscOsTime lp64Linux s).1.toNat < 0x100 := by
  unfold hostfsStructStatToRiscOsTime
  split
  · unfold hostfsTimespec64ToRiscOsTime
    split
    · decide
    · split
      · decide
      next hearly hlate =>
        have hnsec := s.mtim.nsec_lt
        dsimp only
        have hlt : (s.mtim.sec * 100 + (s.mtim.nsec / 10000000 : Nat) + 0x336e996a00).toNat < 0x100 * 2 ^ 32 := by
          omega
        have hload := Nat.div_lt_of_lt_mul (Nat.mul_comm _ _ ▸ hlt)
        rw [UInt32.toNat_ofNat', Nat.mod_eq_of_lt (by omega)]
        exact hload
  · unfold hostfsTimeTToRiscOsTime
    dsimp only
    rw [UInt32.toNat_shiftRight, Nat.shiftRight_eq_div_pow]
    exact Nat.div_lt_of_lt_mul (UInt32.toNat_lt _)

lemma filetype_merge {l t : UInt32} (hl : l.toNat < 0x100) (ht : t.toNat < 0x1000) :
    dateStamped (l ||| ((0xfff00000 : UInt32) ||| (t <<< 8))) = true ∧
      filetype (l ||| ((0xfff00000 : UInt32) ||| (t <<< 8))) = t := by
  have hl : l = l.toUInt8.toUInt32 := by
    apply UInt32.toNat_inj.mp
    rw [UInt8.toNat_toUInt32, UInt32.toNat_toUInt8]
    omega
  have ht : t &&& 0xfff = t := by
    apply UInt32.toNat_inj.mp
    rw [UInt32.toNat_and]
    exact (Nat.and_two_pow_sub_one_eq_mod _ 12).trans (Nat.mod_eq_of_lt ht)
  rw [hl]
  constructor
  · unfold dateStamped
    rw [beq_iff_eq]
    apply UInt32.eq_of_toBitVec_eq
    apply BitVec.eq_of_getLsbD_eq
    intro i hi
    simp only [UInt32.toBitVec_and, UInt32.toBitVec_or, UInt32.toBitVec_shiftLeft, UInt8.toBitVec_toUInt32]
    interval_cases i <;> simp
  · refine Eq.trans ?_ ht
    unfold filetype
    apply UInt32.eq_of_toBitVec_eq
    apply BitVec.eq_of_getLsbD_eq
    intro i hi
    simp only [UInt32.toBitVec_and, UInt32.toBitVec_or, UInt32.toBitVec_shiftLeft, UInt32.toBitVec_shiftRight,
      UInt8.toBitVec_toUInt32]
    interval_cases i <;> simp

def withFiletype (l t : UInt32) : UInt32 := l ||| ((0xfff00000 : UInt32) ||| (t <<< 8))

/-- **What is read of a file**: the addresses behind its name, or its time with the type behind its name, or else
with the type of its extension. -/
lemma read_file {dir hostLeaf : Name} (hslash : 0x2f ∉ hostLeaf) (lp64Linux : Bool) (stat : Name → Option Stat)
    {s : Stat} (hstat : stat (dir ++ 0x2f :: hostLeaf) = some s) (hmode : s.mode = .regular) :
    ∃ info l, l.toNat < 0x100 ∧
      hostfsReadObjectInfo lp64Linux stat (dir ++ 0x2f :: hostLeaf) = some (info, some (hostLeafToRoLeaf hostLeaf)) ∧
      match leafSuffix hostLeaf with
      | some (_, .loadExec load exec) => info.load = load ∧ info.exec = exec
      | some (_, .filetype t) => info.load = withFiletype l t
      | none =>
        info.load = withFiletype l ((hostfsFiletypeFromLeafname (dir ++ 0x2f :: hostLeaf)).getD defaultFileType) := by
  have hsplit : splitLast 0x2f (dir ++ 0x2f :: hostLeaf) = some (dir, hostLeaf) := splitLast_append_cons hslash
  have hplatform : hostfsReadObjectInfoPlatform lp64Linux stat (dir ++ 0x2f :: hostLeaf) =
      some { type := .file, load := (hostfsStructStatToRiscOsTime lp64Linux s).1
             exec := (hostfsStructStatToRiscOsTime lp64Linux s).2, length := UInt32.ofNat s.size } := by
    rw [hostfsReadObjectInfoPlatform, hstat, Option.bind_some]
    dsimp only
    rw [hmode]
  unfold hostfsReadObjectInfo
  rw [hplatform, hsplit, Option.map_some]
  dsimp only [Option.map_some]
  refine ⟨_, (hostfsStructStatToRiscOsTime lp64Linux s).1, load_lt lp64Linux s, rfl, ?_⟩
  cases leafSuffix hostLeaf with
  | none => rfl
  | some p =>
    obtain ⟨stem, suffix⟩ := p
    cases suffix with
    | filetype t => rfl
    | loadExec load exec => exact ⟨rfl, rfl⟩

lemma type_of_ext {e : Name} {t : UInt32} (h : typeOfExt e = some t) : t.toNat < 0x1000 ∧ t ≠ defaultFileType := by
  have htable : ∀ entry ∈ extTypes, entry.2.toNat < 0x1000 ∧ entry.2 ≠ defaultFileType := by decide
  obtain ⟨entry, hentry, rfl⟩ := Option.map_eq_some_iff.mp h
  exact htable entry (List.mem_of_find?_eq_some hentry)

lemma type_of_leafname {leafname : Name} {t : UInt32} (h : hostfsFiletypeFromLeafname leafname = some t) :
    t.toNat < 0x1000 ∧ t ≠ defaultFileType := by
  unfold hostfsFiletypeFromLeafname at h
  dsimp only at h
  split at h
  · cases h
  · split at h
    · cases h
    · exact type_of_ext h

lemma hostLeafToRoLeaf_suffixed (hleaf : IsLeafname leaf) (hlooks : looksSuffixed leaf = true) :
    hostLeafToRoLeaf (hostName leaf) ≠ leaf := by
  have hsome := leafSuffix_hostName hleaf
  rw [hlooks] at hsome
  obtain ⟨p, hp⟩ := Option.isSome_iff_exists.mp hsome
  have hp' := hp
  unfold leafSuffix at hp'
  rw [splitLast_hostName rfl comma_hostChar] at hp'
  cases hsplit : splitLast 0x2c leaf with
  | none =>
    rw [hsplit] at hp'
    cases hp'
  | some q =>
    obtain ⟨stem, rest⟩ := q
    rw [hsplit] at hp'
    obtain ⟨suffix, -, rfl⟩ := Option.map_eq_some_iff.mp hp'
    obtain ⟨hsame, -⟩ := splitLast_eq_some.mp hsplit
    have hstem : IsLeafname stem := fun ch hch => hleaf ch (by rw [hsame]; simp [hch])
    unfold hostLeafToRoLeaf
    rw [hp]
    dsimp only
    rw [nameHostToRiscos_hostName hstem]
    intro heq
    have hlength := congrArg List.length (heq.trans hsame)
    rw [List.length_append, List.length_cons] at hlength
    omega

end Read

/-! ## From the host leaf -/

section HostLeaf

variable {hostLeaf stem : Name} {load exec : UInt32}

lemma readBack_of_suffix (dir : Name) (hslash : 0x2f ∉ hostLeaf)
    (hread : leafSuffix hostLeaf =
      some (stem, if dateStamped load then .filetype (filetype load) else .loadExec load exec)) :
    ReadBack (dir ++ 0x2f :: hostLeaf) (nameHostToRiscos stem) load exec := by
  have hback : hostLeafToRoLeaf hostLeaf = nameHostToRiscos stem := by
    rw [hostLeafToRoLeaf, hread]
  refine ⟨dir, _, splitLast_append_cons hslash, hback, fun lp64Linux stat s hstat hmode => ?_⟩
  obtain ⟨info, l, hl, hinfo, hload⟩ := read_file hslash lp64Linux stat hstat hmode
  rw [hback] at hinfo
  refine ⟨info, hinfo, ?_⟩
  rw [hread] at hload
  cases hstamped : dateStamped load with
  | true =>
    rw [hstamped, if_pos rfl] at hload
    rw [if_pos rfl, hload]
    exact filetype_merge hl (filetype_lt load)
  | false =>
    rw [hstamped, if_neg Bool.false_ne_true] at hload
    rw [if_neg Bool.false_ne_true]
    exact hload

lemma readBack_plain_iff (dir : Name) (exec : UInt32) (hslash : 0x2f ∉ hostLeaf) (hnone : leafSuffix hostLeaf = none)
    (hstamped : dateStamped load = true) (htext : filetype load = defaultFileType) :
    ReadBack (dir ++ 0x2f :: hostLeaf) (nameHostToRiscos hostLeaf) load exec ↔
      hostfsFiletypeFromLeafname (dir ++ 0x2f :: hostLeaf) = none := by
  have hback : hostLeafToRoLeaf hostLeaf = nameHostToRiscos hostLeaf := by
    rw [hostLeafToRoLeaf, hnone]
  constructor
  · rintro ⟨-, -, -, -, hread⟩
    by_contra hsome
    obtain ⟨t, ht⟩ := Option.ne_none_iff_exists'.mp hsome
    obtain ⟨hlt, hne⟩ := type_of_leafname ht
    -- the file that `stat` is to find: any regular one
    let file : Stat := ⟨.regular, ⟨0, 0, by decide⟩, 0⟩
    have hstat : (fun _ => some file : Name → Option Stat) (dir ++ 0x2f :: hostLeaf) = some file := rfl
    obtain ⟨info, hinfo, hkept⟩ := hread true (fun _ => some file) file hstat rfl
    obtain ⟨info', l, hl, hinfo', hload⟩ := read_file hslash true (fun _ => some file) hstat rfl
    have hsame : info = info' := (Prod.mk.inj (Option.some.inj (hinfo.symm.trans hinfo'))).1
    rw [hnone, ht, ← hsame] at hload
    rw [hstamped, if_pos rfl, hload] at hkept
    exact hne ((filetype_merge hl hlt).2.symm.trans (hkept.2.trans htext))
  · intro hguess
    refine ⟨dir, _, splitLast_append_cons hslash, hback, fun lp64Linux stat s hstat hmode => ?_⟩
    obtain ⟨info, l, hl, hinfo, hload⟩ := read_file hslash lp64Linux stat hstat hmode
    rw [hback] at hinfo
    refine ⟨info, hinfo, ?_⟩
    rw [hnone, hguess] at hload
    rw [hstamped, if_pos rfl, hload, htext]
    exact filetype_merge hl (by decide)

end HostLeaf

/-! ## The round trip -/

/-- A leafname that does not pass for one with a suffix. -/
def NotMistaken (leaf : Name) (load : UInt32) : Prop :=
  dateStamped load = true → filetype load = defaultFileType → looksSuffixed leaf = false ∧ looksTyped leaf = false

section RoundTrip

variable {leaf : Name} {load exec : UInt32} (hleaf : IsLeafname leaf)

include hleaf

lemma slash_hostLeaf (load exec : UInt32) : 0x2f ∉ hostName leaf ++ typeSuffix load exec := by
  rw [List.mem_append]
  exact not_or.mpr ⟨slash_hostName hleaf, slash_typeSuffix load exec⟩

lemma readBack_suffixed (dir : Name) (hsuffix : typeSuffix load exec ≠ []) :
    ReadBack (dir ++ 0x2f :: (hostName leaf ++ typeSuffix load exec)) leaf load exec := by
  have hread := leafSuffix_typeSuffix (hostName leaf) load exec hsuffix
  have hback := readBack_of_suffix dir (slash_hostLeaf hleaf load exec) hread
  rwa [nameHostToRiscos_hostName hleaf] at hback

lemma readBack_text (dir : Name) (hstamped : dateStamped load = true) (htext : filetype load = defaultFileType) :
    ReadBack (dir ++ 0x2f :: hostName leaf) leaf load exec ↔
      looksSuffixed leaf = false ∧ looksTyped leaf = false := by
  have hslash := slash_hostName hleaf
  have htyped : hostfsFiletypeFromLeafname (dir ++ 0x2f :: hostName leaf) = none ↔ looksTyped leaf = false := by
    rw [← Option.not_isSome_iff_eq_none, hostfsFiletypeFromLeafname_hostName dir hleaf, Bool.not_eq_true]
  have hplain : looksSuffixed leaf = false → leafSuffix (hostName leaf) = none := by
    intro hsuffixed
    rw [← Option.not_isSome_iff_eq_none, leafSuffix_hostName hleaf, hsuffixed]
    exact Bool.false_ne_true
  have hback := nameHostToRiscos_hostName hleaf
  constructor
  · intro hkept
    have hsuffixed : looksSuffixed leaf = false := by
      refine Bool.eq_false_iff.mpr fun hlooks => hostLeafToRoLeaf_suffixed hleaf hlooks ?_
      obtain ⟨dir', hostLeaf, hsplit, hleaf', -⟩ := hkept
      rw [splitLast_append_cons hslash] at hsplit
      obtain ⟨rfl, rfl⟩ := Prod.mk.inj (Option.some.inj hsplit)
      exact hleaf'
    have hread := readBack_plain_iff dir exec hslash (hplain hsuffixed) hstamped htext
    rw [hback] at hread
    exact ⟨hsuffixed, htyped.mp (hread.mp hkept)⟩
  · rintro ⟨hsuffixed, hextension⟩
    have hread := readBack_plain_iff dir exec hslash (hplain hsuffixed) hstamped htext
    rw [hback] at hread
    exact hread.mpr (htyped.mpr hextension)

end RoundTrip

/-- **HostFS keeps a file's name and type** if and only if the reader is not misled: whatever leafname, load and
exec addresses a path is built of, if it fits its buffer. -/
theorem name_and_type_kept (root oldPath roDir leaf : Name) (len : Nat) (load exec : UInt32)
    (hleaf : IsLeafname leaf) (hfits : Fits oldPath leaf len load exec) :
    (pathConstruct root oldPath (roDir ++ 0x2e :: leaf) len load exec ≠ [] →
        ReadBack (pathConstruct root oldPath (roDir ++ 0x2e :: leaf) len load exec) leaf load exec) ↔
      NotMistaken leaf load := by
  obtain ⟨dir, hdir⟩ := hostDir_eq oldPath
  rw [pathConstruct_eq roDir hleaf hfits, hdir]
  by_cases hnames : hostName leaf = [0x2e] ∨ hostName leaf = [0x2e, 0x2e]
  · rw [if_pos hnames]
    exact iff_of_true (fun hbuilt => absurd rfl hbuilt) fun _ _ => looks_of_directory hleaf hnames
  · have hpath : dir ++ [0x2f] ++ (hostName leaf ++ typeSuffix load exec) =
        dir ++ 0x2f :: (hostName leaf ++ typeSuffix load exec) := by
      rw [List.append_assoc]
      rfl
    have hbuilt : dir ++ 0x2f :: (hostName leaf ++ typeSuffix load exec) ≠ [] := by simp
    rw [if_neg hnames, hpath, forall_prop_of_true hbuilt]
    by_cases htext : dateStamped load = true ∧ filetype load = defaultFileType
    · rw [typeSuffix_eq_nil.mpr htext, List.append_nil, readBack_text hleaf dir htext.1 htext.2]
      exact ⟨fun h _ _ => h, fun h => h htext.1 htext.2⟩
    · refine iff_of_true (readBack_suffixed hleaf dir fun hnil => htext (typeSuffix_eq_nil.mp hnil)) ?_
      exact fun hstamped hdefault => absurd ⟨hstamped, hdefault⟩ htext

theorem name_and_type_kept_source :
    ReadBack (pathConstruct (ext "/h") (ext "/h/") (ext "$" ++ 0x2e :: ext "main/c") 4096 0xffffff00 0)
      (ext "main/c") 0xffffff00 0 :=
  (name_and_type_kept (ext "/h") (ext "/h/") (ext "$") (ext "main/c") 4096 0xffffff00 0
    (isLeafname_of_all (by decide)) ⟨by decide, by decide⟩).mpr (by unfold NotMistaken; decide) (by decide)

theorem name_and_type_not_kept :
    IsLeafname (ext "photo/png") ∧ Fits (ext "/h/") (ext "photo/png") 4096 0xffffff00 0 ∧
      ¬(pathConstruct (ext "/h") (ext "/h/") (ext "$" ++ 0x2e :: ext "photo/png") 4096 0xffffff00 0 ≠ [] →
        ReadBack (pathConstruct (ext "/h") (ext "/h/") (ext "$" ++ 0x2e :: ext "photo/png") 4096 0xffffff00 0)
          (ext "photo/png") 0xffffff00 0) := by
  have hleaf : IsLeafname (ext "photo/png") := isLeafname_of_all (by decide)
  have hbuilt : pathConstruct (ext "/h") (ext "/h/") (ext "$" ++ 0x2e :: ext "photo/png") 4096 0xffffff00 0 =
      ext "/h" ++ 0x2f :: hostName (ext "photo/png") := by decide
  refine ⟨hleaf, ⟨by decide, by decide⟩, fun hkept => ?_⟩
  rw [hbuilt] at hkept
  have hstamped : dateStamped 0xffffff00 = true := by decide
  have htext : filetype 0xffffff00 = defaultFileType := by decide
  have hmistaken := (readBack_text hleaf (ext "/h") hstamped htext).mp (hkept (by decide))
  exact absurd hmistaken.2 (by decide)

end RpcEmu.Hostfs
