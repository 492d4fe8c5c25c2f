import RpcEmu.Hostfs.ObjectInfo

/-!
# What the package installer writes for HostFS

`unzip_hostfs_leafname` of `unzip.c` names a file from an archive with the type that it was packed with, in the
spelling of `path_construct`.  The archive's name is already the host's, so nothing in it is converted.

* **A Text file whose name ends like one with a suffix** is given `,fff`, which `path_construct` does not do.
* **The gap.**  One whose name has an extension the reader knows is not, and the reader goes by the extension:
  `installed_as_packed`.
-/

namespace RpcEmu.Hostfs

open Hex SplitLast

/-- `UnzipEntry`, as far as it names a file for HostFS. -/
structure UnzipEntry where
  loadAddr : UInt32
  execAddr : UInt32
  /-- The two fields above are valid. -/
  hasRiscosInfo : Bool
  isDirectory : Bool

/-- `HOSTFS_DEFAULT_FILE_TYPE`. -/
def hostfsDefaultFileType : UInt32 := 0xfff

/-- `is_hex_digit`. -/
def isHexDigit (c : UInt8) : Bool := 0x30 ≤ c && c ≤ 0x39 || 0x61 ≤ c && c ≤ 0x66 || 0x41 ≤ c && c ≤ 0x46

/-- `leaf_has_suffix_lookalike`. -/
def leafHasSuffixLookalike (leaf : Name) : Bool :=
  match splitLast 0x2c leaf with
  | none => false
  | some (_, rest) => if rest.length == 3 && rest.all isHexDigit then true else rest.contains 0x2d

/-- `unzip_hostfs_leafname`, into a buffer of that size: none where it returns false. -/
def unzipHostfsLeafname (entry : UnzipEntry) (leaf : Name) (outSize : Nat) : Option Name :=
  if outSize = 0 then none
  else
    let out :=
      if !entry.hasRiscosInfo || entry.isDirectory then leaf
      else if entry.loadAddr &&& 0xfff00000 = 0xfff00000 then
        let filetype := (entry.loadAddr >>> 8) &&& 0xfff
        if filetype = hostfsDefaultFileType ∧ leafHasSuffixLookalike leaf = false then leaf
        else leaf ++ 0x2c :: padded 3 filetype.toNat
      else leaf ++ 0x2c :: (numeral entry.loadAddr.toNat ++ 0x2d :: numeral entry.execAddr.toNat)
    if 0 < out.length ∧ out.length < outSize then some out else none

def hasKnownExtension (hostLeaf : Name) : Bool :=
  match splitLast 0x2e hostLeaf with
  | none => false
  | some (stem, e) => stem ≠ [] && (typeOfExt e).isSome

/-- Nothing in the leafname will be taken for the type. -/
def NotGuessed (leaf : Name) (load : UInt32) : Prop :=
  dateStamped load = true → filetype load = defaultFileType → leafHasSuffixLookalike leaf = false →
    hasKnownExtension leaf = false

section Leafname

variable {leaf : Name}

lemma leafSuffix_of_not_lookalike (h : leafHasSuffixLookalike leaf = false) : leafSuffix leaf = none := by
  have hdigit : isHexDigit = isDigit := by
    funext c
    rw [isHexDigit, isDigit, Bool.or_assoc, Bool.or_assoc, Bool.or_comm (0x61 ≤ c && c ≤ 0x66)]
  unfold leafHasSuffixLookalike at h
  unfold leafSuffix
  cases hcomma : splitLast 0x2c leaf with
  | none => rfl
  | some p =>
    obtain ⟨stem, rest⟩ := p
    rw [hcomma, hdigit] at h
    dsimp only at h ⊢
    split at h
    · cases h
    next hdigits =>
      have hdash : splitLast 0x2d rest = none := by
        rw [splitLast_eq_none, ← List.contains_iff_mem, h]
        exact Bool.false_ne_true
      rw [suffixOf, hdash]
      dsimp only
      rw [if_neg hdigits]
      rfl

lemma guessed_iff (dir : Name) (hleaf : 0x2f ∉ leaf) :
    hostfsFiletypeFromLeafname (dir ++ 0x2f :: leaf) = none ↔ hasKnownExtension leaf = false := by
  unfold hostfsFiletypeFromLeafname hasKnownExtension
  rw [splitLast_append_cons hleaf]
  dsimp only
  cases splitLast 0x2e leaf with
  | none => simp
  | some p =>
    obtain ⟨stem, e⟩ := p
    by_cases hstem : stem = []
    · simp [hstem]
    · simp [hstem]

end Leafname

/-! ## Read by HostFS -/

section Installed

variable {entry : UnzipEntry} {leaf out : Name} {outSize : Nat}

lemma unzipHostfsLeafname_eq (hinfo : entry.hasRiscosInfo = true) (hfile : entry.isDirectory = false)
    (hwritten : unzipHostfsLeafname entry leaf outSize = some out) :
    out =
      if dateStamped entry.loadAddr then
        if filetype entry.loadAddr = defaultFileType ∧ leafHasSuffixLookalike leaf = false then leaf
        else leaf ++ 0x2c :: padded 3 (filetype entry.loadAddr).toNat
      else leaf ++ 0x2c :: (numeral entry.loadAddr.toNat ++ 0x2d :: numeral entry.execAddr.toNat) := by
  by_cases hsize : outSize = 0
  · rw [unzipHostfsLeafname, if_pos hsize] at hwritten
    cases hwritten
  · rw [unzipHostfsLeafname, if_neg hsize] at hwritten
    obtain ⟨-, hout⟩ := Option.ite_none_right_eq_some.mp hwritten
    rw [← Option.some.inj hout, hinfo, hfile]
    simp only [dateStamped, beq_iff_eq]
    rfl

/-- **An installed file is read as it was packed** if and only if the reader has no extension to go by: whatever
the name and the addresses, and whatever buffer the name was written to. -/
theorem installed_as_packed (entry : UnzipEntry) (dir leaf out : Name) (outSize : Nat)
    (hinfo : entry.hasRiscosInfo = true) (hfile : entry.isDirectory = false) (hleaf : 0x2f ∉ leaf)
    (hwritten : unzipHostfsLeafname entry leaf outSize = some out) :
    ReadBack (dir ++ 0x2f :: out) (nameHostToRiscos leaf) entry.loadAddr entry.execAddr ↔
      NotGuessed leaf entry.loadAddr := by
  rw [unzipHostfsLeafname_eq hinfo hfile hwritten]
  cases hstamped : dateStamped entry.loadAddr with
  | true =>
    rw [if_pos rfl]
    split
    next hplain =>
      obtain ⟨htext, hlookalike⟩ := hplain
      rw [readBack_plain_iff dir entry.execAddr hleaf (leafSuffix_of_not_lookalike hlookalike) hstamped htext,
        guessed_iff dir hleaf]
      exact ⟨fun h _ _ _ => h, fun h => h hstamped htext hlookalike⟩
    next hsuffixed =>
      have hslash : 0x2f ∉ leaf ++ 0x2c :: padded 3 (filetype entry.loadAddr).toNat := by
        have hdigits : 0x2f ∉ padded 3 (filetype entry.loadAddr).toNat :=
          not_mem_of_digits rfl fun b => isDigit_padded
        simp [hleaf, hdigits]
      have hread := leafSuffix_filetype leaf entry.loadAddr
      refine iff_of_true (readBack_of_suffix dir hslash ?_) fun _ htext hlookalike => ?_
      · rw [hread, hstamped, if_pos rfl]
      · exact absurd ⟨htext, hlookalike⟩ hsuffixed
  | false =>
    have hslash : 0x2f ∉ leaf ++ 0x2c :: (numeral entry.loadAddr.toNat ++ 0x2d :: numeral entry.execAddr.toNat) := by
      have hdigits : ∀ n, (0x2f : UInt8) ∉ numeral n := fun n => not_mem_of_digits rfl fun b => isDigit_numeral
      simp [hleaf, hdigits]
    rw [if_neg Bool.false_ne_true]
    refine iff_of_true (readBack_of_suffix dir hslash ?_) fun h => Bool.noConfusion (hstamped.symm.trans h)
    rw [leafSuffix_loadExec, hstamped, if_neg Bool.false_ne_true]

end Installed

theorem installed_as_packed_lookalike :
    ReadBack (ext "/h" ++ 0x2f :: ext "foo,abc,fff") (nameHostToRiscos (ext "foo,abc")) 0xffffff00 0 :=
  (installed_as_packed ⟨0xffffff00, 0, true, false⟩ (ext "/h") (ext "foo,abc") (ext "foo,abc,fff") 1056 rfl rfl
    (by decide) (by decide)).mpr (by unfold NotGuessed; decide)

theorem not_installed_as_packed :
    unzipHostfsLeafname ⟨0xffffff00, 0, true, false⟩ (ext "photo.png") 1056 = some (ext "photo.png") ∧
      ¬ReadBack (ext "/h" ++ 0x2f :: ext "photo.png") (nameHostToRiscos (ext "photo.png")) 0xffffff00 0 := by
  refine ⟨by decide, ?_⟩
  rw [readBack_plain_iff (ext "/h") 0 (by decide) (by decide) (by decide) (by decide)]
  decide

end RpcEmu.Hostfs
