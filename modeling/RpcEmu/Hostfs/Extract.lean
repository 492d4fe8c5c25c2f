import RpcEmu.Hostfs.Unzip
import RpcEmu.Lib.Beneath
import RpcEmu.Lib.Program
import Mathlib.Data.List.DropRight

/-!
# Where an archive is unpacked

`unzip_extract_all` of `unzip.c`: every member is checked, loses its leading components, has its parent made for it
and is given a filetype, and what is left of the name goes behind the destination.  The host is whatever answers
the calls; what a member holds comes from `unzip_extract_to_memory`, which is one of them.

* **Every path is beneath the destination** (`extraction_beneath`): the check is of the whole name, and each of the
  three things that are done to it keeps what was checked.
* **On the way there are others.**  `mkdir_recursive` makes the directories above the destination as well.
-/

namespace RpcEmu.Hostfs

open Beneath Effects Hex SplitLast

/-- A member of the archive.  `UnzipEntry` is what the name on the host depends on. -/
structure Member extends UnzipEntry where
  /-- As stored, to the first zero. -/
  name : Name
  uncompressedSize : UInt32

/-- The error codes of `unzip.h`. -/
inductive UnzipError
  | open | format | crc | unsupported | write | memory | inflate | tooBig | cancelled
  deriving DecidableEq, Repr

inductive UnpackCall
  | mkdir (path : Name)
  /-- A buffer of the member's size, and `unzip_extract_to_memory` into it. -/
  | toMemory (entry : Member)
  | fopen (path : Name)
  | fwrite (entry : Member)
  | fclose
  /-- The caller's callback. -/
  | progress (done total : Nat) (name : Name)

/-- What it is told.  Nothing looks at what `mkdir` returns. -/
def UnpackCall.Reply : UnpackCall → Type
  | .mkdir _ => Unit
  | .toMemory _ => Option UnzipError
  | .fopen _ => Bool
  | .fwrite _ => Bool
  | .fclose => Bool
  | .progress .. => Bool

abbrev Extraction := Prog UnpackCall UnpackCall.Reply

def mkdir (path : Name) : Extraction Unit := Prog.perform (UnpackCall.mkdir path)

def toMemory (entry : Member) : Extraction (Option UnzipError) := Prog.perform (UnpackCall.toMemory entry)

def fopen (path : Name) : Extraction Bool := Prog.perform (UnpackCall.fopen path)

def fwrite (entry : Member) : Extraction Bool := Prog.perform (UnpackCall.fwrite entry)

def fclose : Extraction Bool := Prog.perform UnpackCall.fclose

def progress (done total : Nat) (name : Name) : Extraction Bool := Prog.perform (UnpackCall.progress done total name)

structure UnzipExtractOptions where
  stripComponents : Int
  applyFiletypes : Bool
  /-- There is a callback. -/
  progress : Bool

/-- The size of `dest_path`, and of the buffer of `mkdir_recursive`. -/
def destPathSize : Nat := 1536

/-- The size of `typed_leaf`. -/
def typedLeafSize : Nat := 1056

/-- The loop of `mkdir_recursive`, with what it has passed. -/
def mkdirFrom (before : Name) : Name → Extraction Unit
  | [] => mkdir before
  | c :: rest =>
    if c = 0x2f then do
      mkdir before
      mkdirFrom (before ++ [c]) rest
    else mkdirFrom (before ++ [c]) rest

/-- `mkdir_recursive`.  The first character is not looked at.  Of an empty path the source looks behind its end, and
what it passes to `mkdir` is empty whatever it finds there. -/
def mkdirRecursive (path : Name) : Extraction Unit :=
  if destPathSize ≤ path.length then pure ()
  else
    match path.rdropWhile (· == 0x2f) with
    | [] => mkdir []
    | c :: rest => mkdirFrom [c] rest

/-- A component that `name_is_safe` refuses. -/
def refusedComponent (c : Name) : Bool := c == ext ".." || c.contains 0x5c

/-- `name_is_safe`. -/
def nameIsSafe (name : Name) : Bool :=
  if name.head? = some 0x2f ∨ name.head? = some 0x5c then false
  else if name ≠ [] ∧ name[1]? = some 0x3a then false
  else (name.splitOn 0x2f).all fun c => !refusedComponent c

/-- `strip_leading_components`. -/
def stripLeadingComponents (name : Name) : Nat → Option Name
  | 0 => if name = [] then none else some name
  | n + 1 =>
    match name.dropWhile (· ≠ 0x2f) with
    | [] => none
    | _ :: rest => stripLeadingComponents rest n

/-- `unzip_extract_to_file`. -/
def unzipExtractToFile (entry : Member) (destPath : Name) : Extraction (Option UnzipError) := do
  let result ← (if 0 < entry.uncompressedSize then toMemory entry else pure none)
  match result with
  | some error => pure (some error)
  | none =>
    let opened ← fopen destPath
    if opened then
      let wrote ← (if 0 < entry.uncompressedSize then fwrite entry else pure true)
      let closed ← fclose
      if wrote && closed then pure none else pure (some .write)
    else pure (some .write)

/-- The leaf under which the member is written, where it fits `typed_leaf`. -/
def typedLeaf (options : UnzipExtractOptions) (entry : Member) (leaf : Name) : Option Name :=
  if options.applyFiletypes then unzipHostfsLeafname entry.toUnzipEntry leaf typedLeafSize
  else if leaf.length < typedLeafSize then some leaf
  else none

def extractLeaf (options : UnzipExtractOptions) (entry : Member) (dir leaf : Name) :
    Extraction (Option UnzipError) :=
  match typedLeaf options entry leaf with
  | none => pure (some .write)
  | some typed =>
    let destPath := dir ++ 0x2f :: typed
    if destPathSize ≤ destPath.length then pure (some .write) else unzipExtractToFile entry destPath

def extractFile (destDir : Name) (options : UnzipExtractOptions) (entry : Member) (relative : Name) :
    Extraction (Option UnzipError) :=
  match splitLast 0x2f relative with
  | none => extractLeaf options entry destDir relative
  | some (parent, leaf) =>
    let dir := destDir ++ 0x2f :: parent
    if destPathSize ≤ dir.length then pure (some .write)
    else do
      mkdirRecursive dir
      extractLeaf options entry dir leaf

/-- The loop of `unzip_extract_all`, with the number of files so far. -/
def extractEntries (destDir : Name) (options : UnzipExtractOptions) (entryCount : Nat) :
    List Member → Nat → Extraction (Except UnzipError Nat)
  | [], count => pure (.ok count)
  | entry :: entries, count =>
    if nameIsSafe entry.name then
      match stripLeadingComponents entry.name options.stripComponents.toNat with
      | none => extractEntries destDir options entryCount entries count
      | some relative =>
        if entry.isDirectory then
          let destPath := destDir ++ 0x2f :: relative
          if destPathSize ≤ destPath.length then pure (.error .write)
          else do
            mkdirRecursive destPath
            extractEntries destDir options entryCount entries count
        else do
          let result ← extractFile destDir options entry relative
          match result with
          | some error => pure (.error error)
          | none =>
            let goOn ← (if options.progress then progress (count + 1) entryCount entry.name else pure true)
            if goOn then extractEntries destDir options entryCount entries (count + 1)
            else pure (.error .cancelled)
    else pure (.error .format)

/-- `unzip_extract_all`, of an archive that is there: without options they are all zero. -/
def unzipExtractAll (entries : List Member) (destDir : Name) (options : Option UnzipExtractOptions) :
    Extraction (Except UnzipError Nat) := do
  mkdirRecursive destDir
  extractEntries destDir (options.getD ⟨0, false, false⟩) entries.length entries 0

/-! ## What is asked -/

/-- The destination, an ancestor of it, or a clean path beneath. -/
def Placed (destDir path : Name) : Prop :=
  Above 0x2f path destDir ∨ ∃ relative, path = destDir ++ 0x2f :: relative ∧ Clean 0x2f refusedComponent relative

/-- What the call creates is the destination or beneath it. -/
def StaysBeneath (destDir : Name) : UnpackCall → Prop
  | .mkdir path => Placed destDir path
  | .fopen path => ∃ relative, path = destDir ++ 0x2f :: relative ∧ Clean 0x2f refusedComponent relative
  | _ => True

section Made

lemma asks_mkdirFrom (before rest : Name) :
    (mkdirFrom before rest).Asks fun call => ∃ p, call = .mkdir p ∧ Above 0x2f p (before ++ rest) := by
  induction rest generalizing before with
  | nil => exact Prog.asks_perform ⟨before, rfl, ⟨[], rfl, .inl rfl⟩⟩
  | cons c rest ih =>
    have hrest := ih (before ++ [c])
    rw [List.append_assoc, List.singleton_append] at hrest
    unfold mkdirFrom
    split
    next hc =>
      refine Prog.Asks.bind (Prog.asks_perform ⟨before, rfl, c :: rest, rfl, .inr ?_⟩) fun _ => hrest
      rw [hc]
      rfl
    next => exact hrest

lemma above_of_rdropWhile {path p : Name} (h : Above 0x2f p (path.rdropWhile (· == 0x2f))) : Above 0x2f p path := by
  obtain ⟨rest, hrest, hends⟩ := h
  have hpath : path = path.rdropWhile (· == 0x2f) ++ path.rtakeWhile (· == 0x2f) := by
    rw [List.rdropWhile, List.rtakeWhile, ← List.reverse_append, List.takeWhile_append_dropWhile,
      List.reverse_reverse]
  refine ⟨rest ++ path.rtakeWhile (· == 0x2f), ?_, ?_⟩
  · rw [← List.append_assoc, ← hrest, ← hpath]
  · rcases hends with rfl | hhead
    · cases htaken : path.rtakeWhile (· == 0x2f) with
      | nil => exact .inl rfl
      | cons c taken =>
        have hmem : c ∈ path.rtakeWhile (· == 0x2f) := htaken ▸ List.mem_cons_self
        exact .inr (congrArg some (eq_of_beq (List.mem_rtakeWhile_imp (p := (· == 0x2f)) hmem)))
    · rw [List.head?_append, hhead]
      exact .inr rfl

lemma asks_mkdirRecursive (path : Name) :
    (mkdirRecursive path).Asks fun call => ∃ p, call = .mkdir p ∧ Above 0x2f p path := by
  unfold mkdirRecursive
  split
  next => trivial
  next =>
    have hcut : ∀ p, Above 0x2f p (path.rdropWhile (· == 0x2f)) → Above 0x2f p path := fun p => above_of_rdropWhile
    cases hkept : path.rdropWhile (· == 0x2f) with
    | nil =>
      rw [hkept] at hcut
      exact Prog.asks_perform ⟨[], rfl, hcut [] (.refl [])⟩
    | cons c rest =>
      rw [hkept] at hcut
      exact (asks_mkdirFrom [c] rest).mono fun call ⟨p, hcall, hp⟩ => ⟨p, hcall, hcut p hp⟩

lemma asks_mkdir_dest (destDir : Name) : (mkdirRecursive destDir).Asks (StaysBeneath destDir) :=
  (asks_mkdirRecursive destDir).mono fun call ⟨p, hcall, hp⟩ => by
    rw [hcall]
    exact .inl hp

lemma asks_mkdir_beneath {destDir relative : Name} (hclean : Clean 0x2f refusedComponent relative) :
    (mkdirRecursive (destDir ++ 0x2f :: relative)).Asks (StaysBeneath destDir) :=
  (asks_mkdirRecursive _).mono fun call ⟨p, hcall, hp⟩ => by
    rw [hcall]
    exact hp.beneath hclean

end Made

/-! ## What is done to a name -/

section Names

variable {name relative leaf out : Name}

lemma clean_of_nameIsSafe (h : nameIsSafe name = true) : Clean 0x2f refusedComponent name := by
  unfold nameIsSafe at h
  split at h
  · cases h
  · split at h
    · cases h
    · exact h

lemma clean_strip {n : Nat} (hclean : Clean 0x2f refusedComponent name)
    (hstrip : stripLeadingComponents name n = some relative) : Clean 0x2f refusedComponent relative := by
  induction n generalizing name with
  | zero =>
    obtain ⟨-, hname⟩ := Option.ite_none_left_eq_some.mp hstrip
    exact Option.some.inj hname ▸ hclean
  | succ n ih =>
    rw [stripLeadingComponents] at hstrip
    cases hrest : name.dropWhile (· ≠ 0x2f) with
    | nil =>
      rw [hrest] at hstrip
      cases hstrip
    | cons c rest =>
      rw [hrest] at hstrip
      have hc : c = 0x2f := by
        have hhead := List.head?_dropWhile_not (fun c : UInt8 => decide (c ≠ 0x2f)) name
        rw [hrest] at hhead
        simpa using hhead
      have hname := List.takeWhile_append_dropWhile (p := fun c : UInt8 => decide (c ≠ 0x2f)) (l := name)
      rw [hrest, hc] at hname
      rw [← hname] at hclean
      exact ih (clean_append_cons.mp hclean).2 hstrip

lemma refusedComponent_append (suffix : Name) (hsuffix : 0x5c ∉ suffix) (c : Name) (hc : refusedComponent c = false) :
    refusedComponent (c ++ 0x2c :: suffix) = false := by
  obtain ⟨-, hback⟩ := Bool.or_eq_false_iff.mp hc
  refine Bool.or_eq_false_iff.mpr ⟨?_, ?_⟩
  · have hcomma : (0x2c : UInt8) ∉ ext ".." := by decide
    refine beq_eq_false_iff_ne.mpr fun heq => hcomma ?_
    rw [← heq]
    exact List.mem_append_right c List.mem_cons_self
  · rw [List.contains_eq_mem] at hback ⊢
    simp only [decide_eq_false_iff_not, List.mem_append, List.mem_cons, not_or] at hback ⊢
    exact ⟨hback, by decide, hsuffix⟩

lemma unzipHostfsLeafname_suffix {entry : UnzipEntry} {outSize : Nat}
    (hout : unzipHostfsLeafname entry leaf outSize = some out) :
    out = leaf ∨ ∃ suffix, out = leaf ++ 0x2c :: suffix ∧ 0x2f ∉ suffix ∧ 0x5c ∉ suffix := by
  have hpadded : ∀ {b : UInt8}, isDigit b = false → ∀ n w, b ∉ padded w n := fun hb n w =>
    not_mem_of_digits hb fun c => isDigit_padded
  have hnumeral : ∀ {b : UInt8}, isDigit b = false → ∀ n, b ∉ numeral n := fun hb n =>
    not_mem_of_digits hb fun c => isDigit_numeral
  unfold unzipHostfsLeafname at hout
  obtain ⟨-, hout⟩ := Option.ite_none_left_eq_some.mp hout
  obtain ⟨-, hout⟩ := Option.ite_none_right_eq_some.mp hout
  rw [← Option.some.inj hout]
  dsimp only
  split
  · exact .inl rfl
  · split
    · split
      · exact .inl rfl
      · exact .inr ⟨_, rfl, hpadded rfl _ _, hpadded rfl _ _⟩
    · refine .inr ⟨_, rfl, ?_, ?_⟩
      · simp [hnumeral (b := 0x2f) rfl]
      · simp [hnumeral (b := 0x5c) rfl]

lemma clean_typed {options : UnzipExtractOptions} {entry : Member} (hclean : Clean 0x2f refusedComponent leaf)
    (htyped : typedLeaf options entry leaf = some out) : Clean 0x2f refusedComponent out := by
  unfold typedLeaf at htyped
  split at htyped
  next =>
    rcases unzipHostfsLeafname_suffix htyped with rfl | ⟨suffix, rfl, hslash, hback⟩
    · exact hclean
    · refine Clean.append hclean ?_ (refusedComponent_append suffix hback)
      rw [List.mem_cons, not_or]
      exact ⟨by decide, hslash⟩
  next =>
    obtain ⟨-, hleaf⟩ := Option.ite_none_right_eq_some.mp htyped
    exact Option.some.inj hleaf ▸ hclean

end Names

/-! ## The extraction -/

section Extraction

variable {destDir : Name} {options : UnzipExtractOptions} {entry : Member}

lemma asks_unzipExtractToFile {path : Name} (hpath : StaysBeneath destDir (.fopen path)) :
    (unzipExtractToFile entry path).Asks (StaysBeneath destDir) := by
  have hread : (if 0 < entry.uncompressedSize then toMemory entry else pure none).Asks (StaysBeneath destDir) := by
    split
    · exact Prog.asks_perform trivial
    · trivial
  have hwrite : (if 0 < entry.uncompressedSize then fwrite entry else pure true).Asks (StaysBeneath destDir) := by
    split
    · exact Prog.asks_perform trivial
    · trivial
  refine Prog.Asks.bind hread fun result => ?_
  cases result with
  | some error => trivial
  | none =>
    refine Prog.Asks.bind (Prog.asks_perform hpath) fun opened => ?_
    cases opened with
    | false => trivial
    | true =>
      refine Prog.Asks.bind hwrite fun wrote => Prog.Asks.bind (Prog.asks_perform trivial) fun closed => ?_
      split <;> trivial

lemma asks_extractLeaf {dir leaf : Name} (hdir : Below 0x2f refusedComponent destDir dir)
    (hleaf : Clean 0x2f refusedComponent leaf) :
    (extractLeaf options entry dir leaf).Asks (StaysBeneath destDir) := by
  unfold extractLeaf
  cases htyped : typedLeaf options entry leaf with
  | none => trivial
  | some out =>
    have hout := clean_typed hleaf htyped
    dsimp only
    split
    · trivial
    · refine asks_unzipExtractToFile ?_
      rcases hdir with rfl | ⟨parent, rfl, hparent⟩
      · exact ⟨out, rfl, hout⟩
      · exact ⟨parent ++ 0x2f :: out, by simp, clean_append_cons.mpr ⟨hparent, hout⟩⟩

lemma asks_extractFile {relative : Name} (hclean : Clean 0x2f refusedComponent relative) :
    (extractFile destDir options entry relative).Asks (StaysBeneath destDir) := by
  unfold extractFile
  cases hsplit : splitLast 0x2f relative with
  | none => exact asks_extractLeaf (.refl destDir) hclean
  | some p =>
    obtain ⟨parent, leaf⟩ := p
    obtain ⟨rfl, -⟩ := splitLast_eq_some.mp hsplit
    obtain ⟨hparent, hleaf⟩ := clean_append_cons.mp hclean
    dsimp only
    split
    · trivial
    · exact Prog.Asks.bind (asks_mkdir_beneath hparent) fun _ =>
        asks_extractLeaf (.inr ⟨parent, rfl, hparent⟩) hleaf

lemma asks_extractEntries (entryCount : Nat) (entries : List Member) (count : Nat) :
    (extractEntries destDir options entryCount entries count).Asks (StaysBeneath destDir) := by
  induction entries generalizing count with
  | nil => trivial
  | cons entry entries ih =>
    unfold extractEntries
    split
    next hsafe =>
      cases hstrip : stripLeadingComponents entry.name options.stripComponents.toNat with
      | none => exact ih count
      | some relative =>
        have hclean := clean_strip (clean_of_nameIsSafe hsafe) hstrip
        dsimp only
        split
        next =>
          split
          · trivial
          · exact Prog.Asks.bind (asks_mkdir_beneath hclean) fun _ => ih count
        next =>
          refine Prog.Asks.bind (asks_extractFile hclean) fun result => ?_
          cases result with
          | some error => trivial
          | none =>
            have hprogress : (if options.progress then progress (count + 1) entryCount entry.name
                else pure true).Asks (StaysBeneath destDir) := by
              split
              · exact Prog.asks_perform trivial
              · trivial
            refine Prog.Asks.bind hprogress fun goOn => ?_
            cases goOn with
            | true => exact ih (count + 1)
            | false => trivial
    next => trivial

/-- **The extraction stays beneath the destination**, whatever the archive, the options and what the host replies:
apart from the way to the destination itself, it makes and opens only what is clean behind it. -/
theorem extraction_beneath (entries : List Member) (destDir : Name) (options : Option UnzipExtractOptions) :
    (unzipExtractAll entries destDir options).Asks (StaysBeneath destDir) :=
  Prog.Asks.bind (asks_mkdir_dest destDir) fun _ => asks_extractEntries _ entries 0

end Extraction

/-- As `StaysBeneath`, without the ancestors. -/
def InDestination (destDir : Name) : UnpackCall → Prop
  | .mkdir path => Below 0x2f refusedComponent destDir path
  | .fopen path => Below 0x2f refusedComponent destDir path
  | _ => True

theorem not_always_inDestination :
    ¬ ∀ entries destDir options, (unzipExtractAll entries destDir options).Asks (InDestination destDir) := by
  intro h
  have hfirst : Below 0x2f refusedComponent (ext "/a/b") (ext "/a") := (h [] (ext "/a/b") none).1
  exact absurd hfirst (by decide)

end RpcEmu.Hostfs
