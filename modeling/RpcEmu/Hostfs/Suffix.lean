import Mathlib.Data.List.Find
import RpcEmu.Hostfs.Names

/-!
# What a host leafname says of the file's type

A RISC OS file's type stands in its host leafname: `,xxx` behind the name, or `,load-exec` for a file without a
type.  A Text file has nothing behind its name, and where there is nothing the reader goes by the extension.

* `leafSuffix` reads what is behind the last comma, and `hostLeafToRoLeaf` leaves it out of the name;
  `hostfsFiletypeFromLeafname` is the table of extensions.
* **What a leafname can be mistaken for.**  `looksSuffixed` and `looksTyped` say of a RISC OS leafname when its
  host name has a suffix, or an extension, of its own.
-/

namespace RpcEmu.Hostfs

open Hex SplitLast

/-- `DEFAULT_FILE_TYPE`, Text. -/
def defaultFileType : UInt32 := 0xfff

/-! ## Behind the last comma -/

inductive Suffix
  | filetype (type : UInt32)
  | loadExec (load exec : UInt32)
  deriving DecidableEq

/-- `" \f\n\r\t\v"`. -/
def isWhitespace (ch : UInt8) : Bool :=
  ch == 0x20 || ch == 0x0c || ch == 0x0a || ch == 0x0d || ch == 0x09 || ch == 0x0b

/-- `sscanf` of `"%8x-%8x"`, if it reads both. -/
def scanLoadExec (s : Name) : Option (UInt32 × UInt32) :=
  match scan 8 s with
  | some (load, 0x2d :: s) => (scan 8 s).map fun p => (load, p.1)
  | _ => none

def suffixOf (rest : Name) : Option Suffix :=
  match splitLast 0x2d rest with
  | some (before, after) =>
    if 1 ≤ before.length && before.length ≤ 8 && 1 ≤ after.length && after.length ≤ 8 && !rest.any isWhitespace then
      (scanLoadExec rest).map fun p => .loadExec p.1 p.2
    else none
  | none => if rest.length == 3 && rest.all isDigit then some (.filetype (UInt32.ofNat (value rest))) else none

def leafSuffix (hostLeaf : Name) : Option (Name × Suffix) :=
  match splitLast 0x2c hostLeaf with
  | some (stem, rest) => (suffixOf rest).map fun suffix => (stem, suffix)
  | none => none

/-- `host_leaf_to_ro_leaf`. -/
def hostLeafToRoLeaf (hostLeaf : Name) : Name :=
  match leafSuffix hostLeaf with
  | some (stem, _) => nameHostToRiscos stem
  | none => nameHostToRiscos hostLeaf

/-! ## Extensions -/

def asciiLower (ch : UInt8) : UInt8 := if 0x41 ≤ ch && ch ≤ 0x5a then ch - 0x41 + 0x61 else ch

/-- `ascii_casecmp`. -/
def asciiCasecmp : Name → Name → Nat
  | a :: as, b :: bs => if asciiLower a ≠ asciiLower b then 1 else asciiCasecmp as bs
  | [], [] => 0
  | _, _ => 1

def ext (s : String) : Name := s.toList.map fun c => UInt8.ofNat c.toNat

/-- `ext_types`. -/
def extTypes : List (Name × UInt32) :=
  [(ext "png", 0xb60), (ext "jpg", 0xc85), (ext "jpeg", 0xc85), (ext "gif", 0x695), (ext "bmp", 0x69c),
    (ext "tif", 0xff0), (ext "tiff", 0xff0), (ext "pdf", 0xadf), (ext "html", 0xfaf), (ext "htm", 0xfaf),
    (ext "csv", 0xdfe), (ext "rtf", 0xc32), (ext "zip", 0xddc), (ext "mp3", 0x1ad), (ext "wav", 0xfb1)]

def typeOfExt (e : Name) : Option UInt32 := (extTypes.find? fun entry => asciiCasecmp e entry.1 == 0).map Prod.snd

/-- `hostfs_filetype_from_leafname`: a name that is nothing but an extension has none. -/
def hostfsFiletypeFromLeafname (leafname : Name) : Option UInt32 :=
  let leaf := match splitLast 0x2f leafname with
    | some (_, leaf) => leaf
    | none => leafname
  match splitLast 0x2e leaf with
  | none => none
  | some (stem, e) => if stem = [] then none else typeOfExt e

/-! ## What is written -/

def dateStamped (load : UInt32) : Bool := load &&& 0xfff00000 == 0xfff00000

def filetype (load : UInt32) : UInt32 := (load >>> 8) &&& 0xfff

/-- What `path_construct` writes behind the name. -/
def typeSuffix (load exec : UInt32) : Name :=
  if dateStamped load then
    if filetype load ≠ defaultFileType then 0x2c :: padded 3 (filetype load).toNat else []
  else 0x2c :: (numeral load.toNat ++ 0x2d :: numeral exec.toNat)

/-! ## What a leafname can be mistaken for -/

def hostLength (name : Name) : Nat := (name.map fun ch => if 0x80 ≤ ch then 2 else 1).sum

def looksSuffixed (leaf : Name) : Bool :=
  match splitLast 0x2c leaf with
  | none => false
  | some (_, rest) =>
    match splitLast 0x2d rest with
    | some (before, after) =>
      1 ≤ hostLength before && hostLength before ≤ 8 && 1 ≤ hostLength after && hostLength after ≤ 8 &&
        (scanLoadExec rest).isSome
    | none => rest.length == 3 && rest.all isDigit

def looksTyped (leaf : Name) : Bool :=
  match splitLast 0x2f leaf with
  | none => false
  | some (stem, e) => stem ≠ [] && (typeOfExt e).isSome

/-! ## The suffix comes back -/

section Written

variable {load exec type : UInt32}

lemma not_mem_of_digits {c : UInt8} {s : Name} (hc : isDigit c = false) (hs : ∀ b ∈ s, isDigit b = true) : c ∉ s := by
  intro hmem
  exact absurd (hs c hmem) (by simp [hc])

lemma length_numeral_uint32 (n : UInt32) : 1 ≤ (numeral n.toNat).length ∧ (numeral n.toNat).length ≤ 8 :=
  ⟨List.length_pos_of_ne_nil numeral_ne_nil, length_numeral_le (by omega) n.toNat_lt⟩

lemma scan_numeral (n : UInt32) {rest : Name} (hrest : ∀ b ∈ rest.head?, isDigit b = false ∧ b ≠ 0x78 ∧ b ≠ 0x58) :
    scan 8 (numeral n.toNat ++ rest) = some (n, rest) := by
  rw [scan_append (fun b => isDigit_numeral) numeral_ne_nil (length_numeral_uint32 n).2 hrest, value_numeral,
    UInt32.ofNat_toNat]

lemma scanLoadExec_of_dash {s t : Name} (h : scan 8 s = some (load, 0x2d :: t)) :
    scanLoadExec s = (scan 8 t).map fun p => (load, p.1) := by
  unfold scanLoadExec
  split
  next load' t' hscan =>
    cases h.symm.trans hscan
    rfl
  next hnone => exact absurd h (hnone load t)

lemma scanLoadExec_of_no_dash {s : Name} (h : ∀ load t, scan 8 s ≠ some (load, 0x2d :: t)) :
    scanLoadExec s = none := by
  unfold scanLoadExec
  split
  next load t hscan => exact absurd hscan (h load t)
  next => rfl

lemma scanLoadExec_numerals (load exec : UInt32) :
    scanLoadExec (numeral load.toNat ++ 0x2d :: numeral exec.toNat) = some (load, exec) := by
  have hexec : scan 8 (numeral exec.toNat) = some (exec, []) := by
    simpa using @scan_numeral exec [] nofun
  rw [scanLoadExec_of_dash (scan_numeral load (by rintro b ⟨⟩; decide)), hexec]
  rfl

lemma suffixOf_loadExec (load exec : UInt32) :
    suffixOf (numeral load.toNat ++ 0x2d :: numeral exec.toNat) = some (.loadExec load exec) := by
  obtain ⟨hload, hload'⟩ := length_numeral_uint32 load
  obtain ⟨hexec, hexec'⟩ := length_numeral_uint32 exec
  have hspace : (numeral load.toNat ++ 0x2d :: numeral exec.toNat).any isWhitespace = false := by
    have hdigit : ∀ b : UInt8, isDigit b = true → isWhitespace b = false := forall_byte (by decide +kernel)
    rw [List.any_eq_false]
    intro b hb
    rw [List.mem_append, List.mem_cons] at hb
    rcases hb with hb | rfl | hb
    · simp [hdigit b (isDigit_numeral hb)]
    · decide
    · simp [hdigit b (isDigit_numeral hb)]
  rw [suffixOf, splitLast_append_cons (not_mem_of_digits rfl fun b => isDigit_numeral)]
  dsimp only
  rw [hspace, scanLoadExec_numerals]
  simp [hload, hload', hexec, hexec']

lemma suffixOf_filetype (htype : type.toNat < 0x1000) :
    suffixOf (padded 3 type.toNat) = some (.filetype type) := by
  have hlength : (padded 3 type.toNat).length = 3 := length_padded (by omega) htype
  have hdigits : (padded 3 type.toNat).all isDigit = true := List.all_eq_true.mpr fun b => isDigit_padded
  rw [suffixOf, splitLast_eq_none.mpr (not_mem_of_digits rfl fun b => isDigit_padded)]
  simp [hlength, hdigits, value_padded]

lemma filetype_lt (load : UInt32) : (filetype load).toNat < 0x1000 := by
  have hle : (filetype load).toNat ≤ 0xfff := by
    rw [filetype, UInt32.toNat_and]
    exact Nat.and_le_right
  omega

lemma leafSuffix_filetype (stem : Name) (load : UInt32) :
    leafSuffix (stem ++ 0x2c :: padded 3 (filetype load).toNat) = some (stem, .filetype (filetype load)) := by
  rw [leafSuffix, splitLast_append_cons (not_mem_of_digits rfl fun b => isDigit_padded)]
  dsimp only
  rw [suffixOf_filetype (filetype_lt load)]
  rfl

lemma leafSuffix_loadExec (stem : Name) (load exec : UInt32) :
    leafSuffix (stem ++ 0x2c :: (numeral load.toNat ++ 0x2d :: numeral exec.toNat)) =
      some (stem, .loadExec load exec) := by
  have hcomma : (0x2c : UInt8) ∉ numeral load.toNat ++ 0x2d :: numeral exec.toNat := by
    rw [List.mem_append, List.mem_cons]
    rintro (hmem | hdash | hmem)
    · exact not_mem_of_digits rfl (fun b => isDigit_numeral) hmem
    · cases hdash
    · exact not_mem_of_digits rfl (fun b => isDigit_numeral) hmem
  rw [leafSuffix, splitLast_append_cons hcomma]
  dsimp only
  rw [suffixOf_loadExec]
  rfl

/-- **What is written behind a name** is read back, and the name is what is in front of it. -/
theorem leafSuffix_typeSuffix (stem : Name) (load exec : UInt32) (h : typeSuffix load exec ≠ []) :
    leafSuffix (stem ++ typeSuffix load exec) =
      some (stem, if dateStamped load then .filetype (filetype load) else .loadExec load exec) := by
  unfold typeSuffix at h ⊢
  cases hstamped : dateStamped load with
  | true =>
    rw [hstamped, if_pos rfl] at h
    rw [if_pos rfl, if_pos rfl]
    split at h
    next hdefault =>
      rw [if_pos hdefault]
      exact leafSuffix_filetype stem load
    · exact absurd rfl h
  | false =>
    rw [if_neg Bool.false_ne_true, if_neg Bool.false_ne_true]
    exact leafSuffix_loadExec stem load exec

lemma typeSuffix_eq_nil : typeSuffix load exec = [] ↔ dateStamped load = true ∧ filetype load = defaultFileType := by
  unfold typeSuffix
  cases dateStamped load with
  | true => simp
  | false => simp

lemma slash_typeSuffix (load exec : UInt32) : 0x2f ∉ typeSuffix load exec := by
  have hdigits : ∀ n, (0x2f : UInt8) ∉ numeral n := fun n => not_mem_of_digits rfl fun b => isDigit_numeral
  have hpadded : ∀ w n, (0x2f : UInt8) ∉ padded w n := fun w n => not_mem_of_digits rfl fun b => isDigit_padded
  unfold typeSuffix
  split_ifs <;> simp [hdigits, hpadded]

end Written

/-! ## What a leafname looks like on the host -/

section Looks

variable {leaf : Name}

lemma length_hostName (name : Name) : (hostName name).length = hostLength name := by
  have hchar : ∀ ch, (hostChar ch).length = if 0x80 ≤ ch then 2 else 1 := by
    refine forall_hostChar (P := fun ch code => code.length = if 0x80 ≤ ch then 2 else 1) (by decide) ?_ ?_
    · intro ch hch _
      rw [if_neg (UInt8.not_le.mpr hch), List.length_singleton]
    · intro ch b b' hch _ _
      rw [if_pos hch]
      rfl
  induction name with
  | nil => rfl
  | cons ch name ih =>
    unfold hostName hostLength at ih ⊢
    rw [List.flatMap_cons, List.length_append, ih, hchar, List.map_cons, List.sum_cons]

lemma scanLoadExec_hostName (rest : Name) : (scanLoadExec (hostName rest)).isSome = (scanLoadExec rest).isSome := by
  by_cases hdash : ∃ load t, scan 8 rest = some (load, 0x2d :: t)
  · obtain ⟨load, t, hscan⟩ := hdash
    have hencoded : scan 8 (hostName rest) = some (load, 0x2d :: hostName t) := by
      rw [hostName, scan_flatMap fixes_hostChar, hscan]
      rfl
    rw [scanLoadExec_of_dash hscan, scanLoadExec_of_dash hencoded, Option.isSome_map, Option.isSome_map, hostName,
      scan_flatMap fixes_hostChar, Option.isSome_map]
  · have hencoded : ∀ load t, scan 8 (hostName rest) ≠ some (load, 0x2d :: t) := by
      intro load t hscan
      rw [hostName, scan_flatMap fixes_hostChar] at hscan
      obtain ⟨p, hp, hcode⟩ := Option.map_eq_some_iff.mp hscan
      obtain ⟨hload, ht⟩ := Prod.mk.inj hcode
      obtain ⟨t', ht', -⟩ := eq_cons_of_flatMap fixes_hostChar rfl ht
      exact hdash ⟨p.1, t', by rw [hp, ← ht']⟩
    rw [scanLoadExec_of_no_dash hencoded,
      scanLoadExec_of_no_dash fun load t hscan => hdash ⟨load, t, hscan⟩]

lemma digits_hostName (rest : Name) :
    ((hostName rest).length == 3 && (hostName rest).all isDigit) = (rest.length == 3 && rest.all isDigit) := by
  have hkept : ∀ ch, (hostChar ch).all isDigit = isDigit ch := by
    refine forall_hostChar (P := fun ch code => code.all isDigit = isDigit ch) (by decide) (fun ch _ _ => by simp) ?_
    intro ch b b' hch hb _
    rw [isDigit_high hch, List.all_cons, isDigit_high hb, Bool.false_and]
  have hone : ∀ ch, isDigit ch = true → (hostChar ch).length = 1 := by
    intro ch hch
    rw [fixes_hostChar.numeral ch (isNumeral_of_isDigit hch), List.length_singleton]
  have hall : (hostName rest).all isDigit = rest.all isDigit := by
    unfold hostName
    rw [List.all_flatMap]
    simp only [hkept]
  rw [hall]
  cases hdigits : rest.all isDigit with
  | false => rw [Bool.and_false, Bool.and_false]
  | true =>
    have hsame : (hostName rest).length = rest.length := by
      rw [hostName, List.length_flatMap, List.map_congr_left fun ch hch =>
        hone ch (List.all_eq_true.mp hdigits ch hch), List.map_const', List.sum_replicate]
      simp
    rw [hsame]

lemma isWhitespace_high {ch : UInt8} (hch : 32 < ch.toNat) : isWhitespace ch = false := by
  simp only [isWhitespace, ← UInt8.toNat_inj, Bool.or_eq_false_iff, beq_eq_false_iff_ne, ne_eq, UInt8.reduceToNat]
  omega

lemma isWhitespace_hostName (h : IsLeafname leaf) : (hostName leaf).any isWhitespace = false := by
  have hplain : ∀ ch, isLeafChar ch = true → isWhitespace ch = false := by
    intro ch hch
    simp only [isLeafChar, Bool.and_eq_true, decide_eq_true_eq] at hch
    have hlt : 32 < ch.toNat := hch.1.1.1.1.1.1.1.1.1
    exact isWhitespace_high hlt
  have hhigh : ∀ ch : UInt8, 0x80 ≤ ch → isWhitespace ch = false := by
    intro ch hch
    have hle : 128 ≤ ch.toNat := hch
    exact isWhitespace_high (by omega)
  have hchar : ∀ ch, isLeafChar ch = true → (hostChar ch).any isWhitespace = false := by
    refine forall_hostChar (P := fun ch code => isLeafChar ch = true → code.any isWhitespace = false) (by decide)
      (fun ch _ _ hch => by simp [hplain ch hch]) ?_
    intro ch b b' _ hb hb' _
    rw [List.any_cons, List.any_cons, hhigh b hb, hhigh b' hb', List.any_nil, Bool.false_or, Bool.false_or]
  unfold hostName
  rw [List.any_flatMap, List.any_eq_false]
  intro ch hch
  simpa using hchar ch (h ch hch)

lemma suffixOf_hostName {rest : Name} (h : IsLeafname rest) :
    (suffixOf (hostName rest)).isSome =
      match splitLast 0x2d rest with
      | some (before, after) =>
        1 ≤ hostLength before && hostLength before ≤ 8 && 1 ≤ hostLength after && hostLength after ≤ 8 &&
          (scanLoadExec rest).isSome
      | none => rest.length == 3 && rest.all isDigit := by
  unfold suffixOf
  rw [splitLast_hostName rfl dash_hostChar]
  cases splitLast 0x2d rest with
  | none =>
    rw [Option.map_none]
    dsimp only
    rw [digits_hostName]
    cases rest.length == 3 && rest.all isDigit <;> rfl
  | some p =>
    rw [Option.map_some]
    dsimp only
    rw [length_hostName, length_hostName, isWhitespace_hostName h, Bool.not_false, Bool.and_true]
    split
    next hlengths => rw [hlengths, Bool.true_and, Option.isSome_map, scanLoadExec_hostName]
    next hlengths => rw [Bool.eq_false_iff.mpr hlengths, Bool.false_and, Option.isSome_none]

/-- **A leafname with a suffix of its own** on the host. -/
theorem leafSuffix_hostName (h : IsLeafname leaf) : (leafSuffix (hostName leaf)).isSome = looksSuffixed leaf := by
  unfold leafSuffix looksSuffixed
  rw [splitLast_hostName rfl comma_hostChar]
  cases hsplit : splitLast 0x2c leaf with
  | none => rfl
  | some p =>
    obtain ⟨stem, rest⟩ := p
    have hrest : IsLeafname rest := fun ch hch => h ch (by rw [(splitLast_eq_some.mp hsplit).1]; simp [hch])
    rw [Option.map_some]
    dsimp only
    rw [Option.isSome_map, suffixOf_hostName hrest]

/-! ### Extensions -/

lemma asciiCasecmp_eq_zero {a b : Name} : asciiCasecmp a b = 0 ↔ a.map asciiLower = b.map asciiLower := by
  induction a generalizing b with
  | nil => cases b <;> simp [asciiCasecmp]
  | cons x a ih =>
    cases b with
    | nil => simp [asciiCasecmp]
    | cons y b =>
      rw [asciiCasecmp, List.map_cons, List.map_cons, List.cons.injEq, ← ih]
      split
      next hne => simp [hne]
      next heq => simp [not_not.mp heq]

def isAlnum (ch : UInt8) : Bool := 0x30 ≤ ch && ch ≤ 0x39 || 0x41 ≤ ch && ch ≤ 0x5a || 0x61 ≤ ch && ch ≤ 0x7a

lemma map_asciiLower_hostName {name e : Name} (he : ∀ ch ∈ e, isAlnum ch = true) :
    (hostName name).map asciiLower = e.map asciiLower ↔ name.map asciiLower = e.map asciiLower := by
  have hhigh : ∀ ch : UInt8, 0x80 ≤ ch → isAlnum ch = false := by
    intro ch hch
    have hle : 128 ≤ ch.toNat := hch
    simp only [isAlnum, UInt8.le_iff_toNat_le, Bool.or_eq_false_iff, Bool.and_eq_false_iff, decide_eq_false_iff_not,
      UInt8.reduceToNat]
    omega
  have hkept : ∀ ch, isAlnum ch = true → hostChar ch = [ch] := by
    refine forall_hostChar (P := fun ch code => isAlnum ch = true → code = [ch]) (by decide) (fun _ _ _ _ => rfl) ?_
    intro ch b b' hch _ _ halnum
    rw [hhigh ch hch] at halnum
    cases halnum
  have hlower : ∀ ch, isAlnum (asciiLower ch) = isAlnum ch := forall_byte (by decide +kernel)
  have hother : ∀ ch, isAlnum ch = false → ∃ h t, hostChar ch = h :: t ∧ isAlnum h = false := by
    refine forall_hostChar (P := fun ch code => isAlnum ch = false → ∃ h t, code = h :: t ∧ isAlnum h = false) ?_
      (fun ch _ _ hch => ⟨ch, [], rfl, hch⟩) fun ch b b' _ hb _ _ => ⟨b, [b'], rfl, hhigh b hb⟩
    intro p hp _
    have hfalse : ∀ p ∈ swaps, isAlnum p.2 = false := by decide
    exact ⟨p.2, [], rfl, hfalse p hp⟩
  -- a character that is no letter or digit is found unequal, on either side
  have hne : ∀ x y, isAlnum x = false → isAlnum y = true → asciiLower x ≠ asciiLower y := by
    intro x y hx hy heq
    have hsame := (hlower x).symm.trans ((congrArg isAlnum heq).trans (hlower y))
    rw [hx, hy] at hsame
    cases hsame
  induction name generalizing e with
  | nil => exact Iff.rfl
  | cons ch name ih =>
    unfold hostName at ih ⊢
    rw [List.flatMap_cons]
    cases hch : isAlnum ch with
    | true =>
      rw [hkept ch hch, List.singleton_append, List.map_cons, List.map_cons]
      cases e with
      | nil => simp
      | cons y e =>
        rw [List.map_cons, List.cons.injEq, List.cons.injEq]
        exact and_congr_right fun _ => ih fun c hc => he c (List.mem_cons_of_mem y hc)
    | false =>
      obtain ⟨h, t, hcode, hh⟩ := hother ch hch
      rw [hcode, List.cons_append, List.map_cons, List.map_cons]
      cases e with
      | nil => simp
      | cons y e =>
        have hy := he y List.mem_cons_self
        refine iff_of_false (fun heq => ?_) fun heq => ?_
        · exact hne h y hh hy (List.cons.inj heq).1
        · exact hne ch y hch hy (List.cons.inj heq).1

lemma typeOfExt_hostName (e : Name) : typeOfExt (hostName e) = typeOfExt e := by
  have hall : extTypes.all (fun entry => entry.1.all isAlnum) = true := by decide +kernel
  have halnum : ∀ entry ∈ extTypes, ∀ ch ∈ entry.1, isAlnum ch = true := fun entry hentry =>
    List.all_eq_true.mp (List.all_eq_true.mp hall entry hentry)
  have hsame : ∀ entry ∈ extTypes, (asciiCasecmp (hostName e) entry.1 == 0) = (asciiCasecmp e entry.1 == 0) := by
    intro entry hentry
    rw [Bool.eq_iff_iff, beq_iff_eq, beq_iff_eq, asciiCasecmp_eq_zero, asciiCasecmp_eq_zero,
      map_asciiLower_hostName (halnum entry hentry)]
  rw [typeOfExt, typeOfExt, List.find?_congr hsame]

/-- **A leafname with an extension of the table** on the host. -/
theorem hostfsFiletypeFromLeafname_hostName (dir : Name) (h : IsLeafname leaf) :
    (hostfsFiletypeFromLeafname (dir ++ 0x2f :: hostName leaf)).isSome = looksTyped leaf := by
  unfold hostfsFiletypeFromLeafname looksTyped
  rw [splitLast_append_cons (slash_hostName h)]
  dsimp only
  rw [splitLast_hostName rfl dot_hostChar]
  cases splitLast 0x2f leaf with
  | none => rfl
  | some p =>
    obtain ⟨stem, e⟩ := p
    rw [Option.map_some]
    dsimp only
    cases stem with
    | nil => rfl
    | cons ch stem =>
      have hstem : hostName (ch :: stem) ≠ [] := by simp [hostName, hostChar_ne_nil]
      rw [if_neg hstem, typeOfExt_hostName]
      rfl

end Looks

end RpcEmu.Hostfs
