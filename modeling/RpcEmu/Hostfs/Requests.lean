import RpcEmu.Hostfs.Listing
import RpcEmu.Lib.Beneath
import RpcEmu.Lib.Runs

/-!
# What HostFS names on the host

The requests of `hostfs.c` that name something on the host, each with the host paths that it hands over: to
`fopen`, `mkdir`, `rename`, `unlink`, `rmdir` and `opendir`.

* **A request** comes with the host as it is at the time, and with whether a `rename` succeeds.
* **`Allowed`** keeps out the requests that place a leaf without resolving it where that leads outside:
  `requests_confined`.
-/

namespace RpcEmu.Hostfs

open SplitLast Beneath

/-! ## The requests -/

inductive HostCall
  | fopen (path : Name)
  | mkdir (path : Name)
  | rename (oldPath newPath : Name)
  | unlink (path : Name)
  | rmdir (path : Name)
  | opendir (path : Name)
  deriving DecidableEq

def HostCall.paths : HostCall → List Name
  | .fopen path => [path]
  | .mkdir path => [path]
  | .rename oldPath newPath => [oldPath, newPath]
  | .unlink path => [path]
  | .rmdir path => [path]
  | .opendir path => [path]

inductive Request
  /-- With R0. -/
  | open (roPath : Name) (mode : UInt32)
  /-- `hostfs_file_0_save_file` and `hostfs_file_7_create_file`. -/
  | writeFile (roPath : Name) (load exec : UInt32)
  | writeCatInfo (roPath : Name) (load exec : UInt32)
  | readCatInfo (roPath : Name)
  | delete (roPath : Name)
  | createDir (roPath : Name)
  | loadFile (roPath : Name)
  | chdir (roPath : Name)
  | rename (roPath1 roPath2 : Name)
  | readDir (roPath : Name)

inductive Event
  | request (lp64Linux : Bool) (h : Host) (renames : Bool) (r : Request)
  | reset

section Requests

variable (lp64Linux : Bool) (h : Host) (s : Discs)

def opens (r : Resolved) : List HostCall := r.opened.map .opendir

/-- `hostfs_open`. -/
def hostfsOpen (roPath : Name) (mode : UInt32) : List HostCall :=
  let r := hostfsPathProcess lp64Linux h s roPath
  opens r ++ if r.info.isSome ∧ (mode = 0 ∨ mode = 2) then [.fopen r.hostPathname] else []

/-- `hostfs_write_file`. -/
def hostfsWriteFile (renames : Bool) (roPath : Name) (load exec : UInt32) : List HostCall :=
  let r := hostfsPathProcess lp64Linux h s roPath
  opens r ++
    match r.info with
    | none =>
      if r.error.isSome then []
      else [.fopen (pathConstruct s.hostfsRoot (r.hostPathname ++ [0x2f]) roPath pathMax load exec)]
    | some ⟨.file, _, _, _, _⟩ =>
      let newPathname := pathConstruct s.hostfsRoot r.hostPathname roPath pathMax load exec
      .rename r.hostPathname newPathname :: if renames then [.fopen newPathname] else []
    | some ⟨.directory, _, _, _, _⟩ => []

/-- `hostfs_file_1_write_cat_info`. -/
def hostfsFile1WriteCatInfo (roPath : Name) (load exec : UInt32) : List HostCall :=
  let r := hostfsPathProcess lp64Linux h s roPath
  opens r ++
    match r.info with
    | some ⟨.file, _, _, _, _⟩ =>
      [.rename r.hostPathname (pathConstruct s.hostfsRoot r.hostPathname roPath pathMax load exec)]
    | _ => []

/-- `hostfs_file_6_delete`. -/
def hostfsFile6Delete (roPath : Name) : List HostCall :=
  let r := hostfsPathProcess lp64Linux h s roPath
  opens r ++
    match r.info with
    | none => []
    | some ⟨.file, _, _, _, _⟩ => [.unlink r.hostPathname]
    | some ⟨.directory, _, _, _, _⟩ => [.rmdir r.hostPathname]

def roLeafOf (roPath : Name) : Name :=
  match splitLast 0x2e roPath with
  | some (_, leaf) => leaf
  | none => roPath

/-- `hostfs_file_8_create_dir`. -/
def hostfsFile8CreateDir (roPath : Name) : List HostCall :=
  if roPath = [0x24] then []
  else
    let r := hostfsPathProcess lp64Linux h s roPath
    opens r ++
      if r.info.isSome ∨ r.error.isSome ∨ 0x2e ∉ roPath ∨ pathMax < r.hostPathname.length + 2 then []
      else
        let dir := r.hostPathname ++ [0x2f]
        [.mkdir (dir ++ riscosPathToHost s.hostfsRoot (roLeafOf roPath) (pathMax - dir.length - 1))]

/-- `hostfs_file_255_load_file`. -/
def hostfsFile255LoadFile (roPath : Name) : List HostCall :=
  let r := hostfsPathProcess lp64Linux h s roPath
  opens r ++ [.fopen r.hostPathname]

def inShared (hostPath : Name) : Bool :=
  s.sharedRoot.isPrefixOf hostPath &&
    ((hostPath.drop s.sharedRoot.length).isEmpty || (hostPath.drop s.sharedRoot.length).head? == some 0x2f)

/-- `hostfs_set_csd_for_root`. -/
def hostfsSetCsdForRoot (rootPath hostPath : Name) : Discs :=
  if rootPath = s.sharedRoot then { s with csdShared := hostPath.take (pathMax - 1) }
  else { s with csdHostfs := hostPath.take (pathMax - 1) }

/-- `hostfs_func_0_chdir`, and what it opens. -/
def hostfsFunc0Chdir (roPath : Name) : Discs × List HostCall :=
  let r := hostfsPathProcess lp64Linux h s roPath
  if r.error.isSome ∨ r.info.isNone then (s, opens r)
  else (hostfsSetCsdForRoot s (if inShared s r.hostPathname then s.sharedRoot else s.hostfsRoot) r.hostPathname, opens r)

/-- `hostfs_func_8_rename`. -/
def hostfsFunc8Rename (roPath1 roPath2 : Name) : List HostCall :=
  let r1 := hostfsPathProcess lp64Linux h s roPath1
  let r2 := hostfsPathProcess lp64Linux h s roPath2
  opens r1 ++ opens r2 ++
    match r1.info with
    | none => []
    | some info1 =>
      if r2.info.isSome then
        if asciiCasecmp roPath1 roPath2 ≠ 0 then []
        else
          [.rename r1.hostPathname
            (pathConstruct s.hostfsRoot r2.hostPathname roPath2 pathMax info1.load info1.exec)]
      else if r2.error.isSome then []
      else
        [.rename r1.hostPathname
          (pathConstruct s.hostfsRoot (r2.hostPathname ++ [0x2f]) roPath2 pathMax info1.load info1.exec)]

/-- `hostfs_read_dir`, as far as it names anything: a directory is opened. -/
def readDirCalls (roPath : Name) : List HostCall :=
  let r := hostfsPathProcess lp64Linux h s roPath
  opens r ++
    match r.info with
    | some ⟨.directory, _, _, _, _⟩ => [.opendir r.hostPathname]
    | _ => []

end Requests

def serve (s : Discs) : Event → Discs × List HostCall
  | .request lp64Linux h renames r =>
    match r with
    | .open roPath mode => (s, hostfsOpen lp64Linux h s roPath mode)
    | .writeFile roPath load exec => (s, hostfsWriteFile lp64Linux h s renames roPath load exec)
    | .writeCatInfo roPath load exec => (s, hostfsFile1WriteCatInfo lp64Linux h s roPath load exec)
    | .readCatInfo roPath => (s, opens (hostfsPathProcess lp64Linux h s roPath))
    | .delete roPath => (s, hostfsFile6Delete lp64Linux h s roPath)
    | .createDir roPath => (s, hostfsFile8CreateDir lp64Linux h s roPath)
    | .loadFile roPath => (s, hostfsFile255LoadFile lp64Linux h s roPath)
    | .chdir roPath => hostfsFunc0Chdir lp64Linux h s roPath
    | .rename roPath1 roPath2 => (s, hostfsFunc8Rename lp64Linux h s roPath1 roPath2)
    | .readDir roPath => (s, readDirCalls lp64Linux h s roPath)
  | .reset => ({ s with csdHostfs := s.hostfsRoot, csdShared := s.sharedRoot }, [])

def served (s : Discs) (e : Event) : Discs := (serve s e).1

/-- `hostfs_init`. -/
def hostfsInit (hostfsRoot sharedRoot : Name) : Discs := ⟨hostfsRoot, sharedRoot, hostfsRoot, sharedRoot⟩

/-! ## What may be named -/

/-- The root, or beneath it by plain names. -/
abbrev InDisc (root path : Name) : Prop := Below 0x2f dots root path

/-- **A path of HostFS's own.** -/
def Named (s : Discs) (path : Name) : Prop := InDisc s.hostfsRoot path ∨ InDisc s.sharedRoot path

instance (s : Discs) (path : Name) : Decidable (Named s path) := inferInstanceAs (Decidable (_ ∨ _))

/-- Every path the event uses is named by a disc. -/
def Confined (s : Discs) (e : Event) : Prop := ∀ call ∈ (serve s e).2, ∀ path ∈ call.paths, Named s path

instance (s : Discs) (e : Event) : Decidable (Confined s e) := inferInstanceAs (Decidable (∀ call ∈ _, _))

/-! ## What keeps it there -/

/-- A path that starts as the `assert` has it; a `$` further on puts the root behind the path so far, and is to
start with a slash and have no dots for a component. -/
def PathOk (s : Discs) (roPath : Name) : Prop :=
  isRoPath roPath = true ∧
    ∀ rootPath path, discPath s roPath = some (rootPath, path) → 0x24 ∈ path.tail →
      ∃ rest, rootPath = 0x2f :: rest ∧ Clean 0x2f dots rest

/-- A leaf is placed behind a directory's path: there is one, and room for it, and it does not come out as `.` or
`..`. -/
def PlacesLeaf (s : Discs) (dir roPath : Name) : Prop :=
  0x2e ∈ roPath ∧ dir.length < pathMax ∧
    Clean 0x2f dots (riscosPathToHost s.hostfsRoot (roLeafOf roPath) (pathMax - dir.length - 1))

/-- Another leaf in its place stays on the disc. -/
def ReplacesLeaf (s : Discs) (hostPathname roPath : Name) : Prop :=
  (∀ rootPath path, discPath s roPath = some (rootPath, path) → hostPathname ≠ rootPath) ∧
    PlacesLeaf s (hostDir hostPathname) roPath

/-- **What a request may be.** -/
def Allowed (s : Discs) : Event → Prop
  | .request lp64Linux h _ r =>
    match r with
    | .open roPath _ => PathOk s roPath
    | .writeFile roPath _ _ =>
      let r := hostfsPathProcess lp64Linux h s roPath
      PathOk s roPath ∧
        match r.info with
        | none => r.error = none → PlacesLeaf s (r.hostPathname ++ [0x2f]) roPath
        | some ⟨.file, _, _, _, _⟩ => ReplacesLeaf s r.hostPathname roPath
        | some ⟨.directory, _, _, _, _⟩ => True
    | .writeCatInfo roPath _ _ =>
      let r := hostfsPathProcess lp64Linux h s roPath
      PathOk s roPath ∧
        match r.info with
        | some ⟨.file, _, _, _, _⟩ => ReplacesLeaf s r.hostPathname roPath
        | _ => True
    | .readCatInfo roPath => PathOk s roPath
    | .delete roPath => PathOk s roPath
    | .createDir roPath =>
      let r := hostfsPathProcess lp64Linux h s roPath
      PathOk s roPath ∧
        (r.info = none → r.error = none → 0x2e ∈ roPath → r.hostPathname.length + 2 ≤ pathMax →
          PlacesLeaf s (r.hostPathname ++ [0x2f]) roPath)
    -- there is a disc of that name
    | .loadFile roPath => PathOk s roPath ∧ (discPath s roPath).isSome
    -- the root of the one disc is not beneath the other's by way of dots
    | .chdir roPath => PathOk s roPath ∧ ∀ rest, s.hostfsRoot = s.sharedRoot ++ 0x2f :: rest → Clean 0x2f dots rest
    | .rename roPath1 roPath2 =>
      let r1 := hostfsPathProcess lp64Linux h s roPath1
      let r2 := hostfsPathProcess lp64Linux h s roPath2
      PathOk s roPath1 ∧ PathOk s roPath2 ∧
        (r1.info.isSome →
          if r2.info.isSome then asciiCasecmp roPath1 roPath2 = 0 → ReplacesLeaf s r2.hostPathname roPath2
          else r2.error = none → PlacesLeaf s (r2.hostPathname ++ [0x2f]) roPath2)
    | .readDir roPath => PathOk s roPath
  | .reset => True

/-! ## A walk stays on its disc -/

/-- Each current directory is on its disc. -/
structure CsdsInDisc (s : Discs) : Prop where
  hostfs : InDisc s.hostfsRoot s.csdHostfs
  shared : InDisc s.sharedRoot s.csdShared

/-- The walk is on the disc, and so is all it opened. -/
structure OnDisc (rootPath : Name) (w : Walk) : Prop where
  path : InDisc rootPath w.hostPathname
  opened : ∀ dir ∈ w.opened, InDisc rootPath dir

section Walk

variable {lp64Linux : Bool} {h : Host} {s : Discs} {rootPath : Name} {w : Walk}

lemma length_of_objectInfo {path : Name} {info : ObjectInfo} (hinfo : objectInfo lp64Linux h path = some info) :
    path.length < pathMax := by
  by_contra hlong
  have hnone := h.stat_long (Nat.not_lt.mp hlong)
  simp [objectInfo, hostfsReadObjectInfo, hostfsReadObjectInfoPlatform, hnone] at hinfo

lemma clean_entry {entry : Name} (hslash : 0x2f ∉ entry) (hdots : dots entry = false) : Clean 0x2f dots entry :=
  (clean_plain hslash).mpr hdots

lemma inDisc_goParent {path : Name} (hpath : InDisc rootPath path) :
    InDisc rootPath (hostfsPathGoParent path rootPath) := by
  unfold hostfsPathGoParent
  split
  · exact .refl _
  next hother =>
    split
    · exact .refl _
    next dir leaf hsplit =>
      split
      · exact .refl _
      · split
        · exact hpath.parent (not_or.mp hother).2 hsplit
        · exact .refl _

lemma length_goParent {path : Name} (hroot : rootPath.length < pathMax) (hpath : path.length < pathMax) :
    (hostfsPathGoParent path rootPath).length < pathMax := by
  unfold hostfsPathGoParent
  split
  · exact hroot
  · split
    · exact hroot
    next dir leaf hsplit =>
      have hlength := congrArg List.length (splitLast_eq_some.mp hsplit).1
      rw [List.length_append] at hlength
      split
      · exact hroot
      · split
        · omega
        · exact hroot

/-- However the walk ends, it is on the disc. -/
def Stays (rootPath : Name) : Except Walk Walk → Prop
  | .ok w => OnDisc rootPath w ∧ w.hostPathname.length < pathMax
  | .error w => OnDisc rootPath w

variable (lp64Linux h) in
lemma lookAt_stays (hw : OnDisc rootPath w) : Stays rootPath (lookAt lp64Linux h w) := by
  unfold lookAt
  split
  next info hinfo => exact ⟨⟨hw.path, hw.opened⟩, length_of_objectInfo hinfo⟩
  next => exact ⟨hw.path, hw.opened⟩

variable (lp64Linux h) in
lemma takeComponent_stays (hw : OnDisc rootPath w) : Stays rootPath (takeComponent lp64Linux h w) := by
  have hopened : ∀ dir ∈ w.opened ++ [w.hostPathname], InDisc rootPath dir := by
    intro dir hdir
    rcases List.mem_append.mp hdir with hdir | hdir
    · exact hw.opened dir hdir
    · obtain rfl := List.mem_singleton.mp hdir
      exact hw.path
  unfold takeComponent
  split
  next name info hscan =>
    obtain ⟨hslash, hdots, -, hinfo⟩ := scan_some hscan
    exact ⟨⟨hw.path.child (clean_entry hslash hdots), hopened⟩, length_of_objectInfo hinfo⟩
  next => exact ⟨hw.path, hopened⟩

variable (lp64Linux h) in
lemma pathChar_stays (ch : UInt8) (hw : OnDisc rootPath w) (hlength : w.hostPathname.length < pathMax)
    (hroot : rootPath.length < pathMax) (hcsd : InDisc rootPath (hostfsGetCsdForRoot s rootPath))
    (hdollar : ch = 0x24 → ∃ rest, rootPath = 0x2f :: rest ∧ Clean 0x2f dots rest) :
    Stays rootPath (pathChar lp64Linux h s rootPath w ch) := by
  unfold pathChar
  split
  · obtain ⟨rest, hrest, hclean⟩ := hdollar rfl
    refine lookAt_stays lp64Linux h ⟨?_, hw.opened⟩
    show InDisc rootPath (w.hostPathname ++ rootPath)
    conv_rhs => rw [hrest]
    exact hw.path.child hclean
  · split
    · exact takeComponent_stays lp64Linux h hw
    · exact ⟨hw, hlength⟩
  · exact ⟨⟨hw.path, hw.opened⟩, hlength⟩
  · exact ⟨⟨inDisc_goParent hw.path, hw.opened⟩, length_goParent hroot hlength⟩
  · have hlook := lookAt_stays lp64Linux h
      (w := { w with hostPathname := hostfsGetCsdForRoot s rootPath }) ⟨hcsd, hw.opened⟩
    cases hres : lookAt lp64Linux h { w with hostPathname := hostfsGetCsdForRoot s rootPath } with
    | ok v =>
      rw [hres] at hlook
      exact ⟨⟨hlook.1.path, hlook.1.opened⟩, hlook.2⟩
    | error v =>
      rw [hres] at hlook
      exact hlook
  · exact ⟨⟨hw.path, hw.opened⟩, hlength⟩

variable (lp64Linux h) in
/-- **A walk stays on its disc.** -/
lemma walk_stays {path : Name} (hroot : rootPath.length < pathMax)
    (hcsd : InDisc rootPath (hostfsGetCsdForRoot s rootPath))
    (hdollar : 0x24 ∈ path → ∃ rest, rootPath = 0x2f :: rest ∧ Clean 0x2f dots rest) (hw : OnDisc rootPath w)
    (hlength : w.hostPathname.length < pathMax) :
    Stays rootPath (path.foldlM (pathChar lp64Linux h s rootPath) w) := by
  induction path generalizing w with
  | nil => exact ⟨hw, hlength⟩
  | cons ch path ih =>
    rw [List.foldlM_cons]
    have hchar := pathChar_stays lp64Linux h ch hw hlength hroot hcsd
      fun heq => hdollar (heq ▸ List.mem_cons_self)
    cases hres : pathChar lp64Linux h s rootPath w ch with
    | ok v =>
      rw [hres] at hchar
      exact ih (fun hmem => hdollar (List.mem_cons_of_mem ch hmem)) hchar.1 hchar.2
    | error v =>
      rw [hres] at hchar
      exact hchar

/-- What a path resolves to is on the disc. -/
structure ResolvedOn (rootPath : Name) (r : Resolved) : Prop where
  path : InDisc rootPath r.hostPathname
  opened : ∀ dir ∈ r.opened, InDisc rootPath dir
  short : r.error = none → r.hostPathname.length < pathMax
  found : r.info.isSome → r.error = none

lemma stopped_on (hw : OnDisc rootPath w) (hinfo : w.info = none) :
    ResolvedOn rootPath ⟨w.hostPathname, w.info, some .notFound, w.opened⟩ := by
  refine ⟨hw.path, hw.opened, ?_, ?_⟩
  · intro herror
    cases herror
  · intro hfound
    rw [hinfo] at hfound
    cases hfound

lemma finish_on (hw : OnDisc rootPath w) (hlength : w.hostPathname.length < pathMax) :
    ResolvedOn rootPath (finish lp64Linux h w) := by
  unfold finish
  split
  next v hv =>
    have hstays : OnDisc rootPath v ∧ v.hostPathname.length < pathMax := by
      split at hv
      · have htake := takeComponent_stays lp64Linux h hw
        rwa [hv] at htake
      · obtain rfl := Except.ok.inj hv
        exact ⟨hw, hlength⟩
    exact ⟨hstays.1.path, hstays.1.opened, fun _ => hstays.2, fun _ => rfl⟩
  next v hv =>
    split at hv
    · have htake := takeComponent_stays lp64Linux h hw
      rw [hv] at htake
      refine ⟨htake.path, htake.opened, fun _ => ?_, fun _ => rfl⟩
      -- the path is what it was
      unfold takeComponent at hv
      split at hv
      · cases hv
      · obtain rfl := Except.error.inj hv
        exact hlength
    · cases hv

end Walk

/-! ## A path stays on its disc -/

section Process

variable {lp64Linux : Bool} {h : Host} {s : Discs} {roPath : Name}

lemma csd_inDisc (hcsds : CsdsInDisc s) {rootPath : Name} (hroot : rootPath = s.hostfsRoot ∨ rootPath = s.sharedRoot) :
    InDisc rootPath (hostfsGetCsdForRoot s rootPath) := by
  unfold hostfsGetCsdForRoot
  split
  next hshared => exact hshared ▸ hcsds.shared
  next hother =>
    obtain rfl := hroot.resolve_right hother
    exact hcsds.hostfs

lemma discPath_dollar {rootPath path : Name} (hro : isRoPath roPath = true)
    (hdisc : discPath s roPath = some (rootPath, path)) :
    (rootPath = s.hostfsRoot ∨ rootPath = s.sharedRoot) ∧ ∃ tail, path = 0x24 :: tail := by
  cases roPath with
  | nil => cases hro
  | cons ch rest =>
    by_cases hch : ch = 0x3a
    · subst hch
      obtain ⟨discName, -, ⟨hne, -⟩, rfl, rfl⟩ := discPath_colon.mp hdisc
      refine ⟨?_, ?_⟩
      · unfold hostfsGetRootForDisc
        split
        · exact .inr rfl
        · exact .inl rfl
      · cases hdrop : rest.dropWhile (· ≠ 0x24) with
        | nil => exact absurd hdrop hne
        | cons x tail =>
          have hx := List.head?_dropWhile_not (fun c : UInt8 => decide (c ≠ 0x24)) rest
          rw [hdrop] at hx
          refine ⟨tail, ?_⟩
          simpa using hx
    · rw [discPath_plain hch] at hdisc
      obtain ⟨rfl, rfl⟩ := Prod.mk.inj (Option.some.inj hdisc)
      refine ⟨.inl rfl, rest, ?_⟩
      simp only [isRoPath, List.head?_cons, Bool.or_eq_true, beq_iff_eq, Option.some.injEq] at hro
      rw [hro.resolve_right hch]

variable (lp64Linux h) in
/-- **A path that is as it should be** leads nowhere but to its disc. -/
lemma process_on (hcsds : CsdsInDisc s) (hok : PathOk s roPath) {rootPath path : Name}
    (hdisc : discPath s roPath = some (rootPath, path)) :
    ResolvedOn rootPath (hostfsPathProcess lp64Linux h s roPath) := by
  obtain ⟨hroot, tail, rfl⟩ := discPath_dollar hok.1 hdisc
  have hdollar := hok.2 rootPath _ hdisc
  rw [List.tail_cons] at hdollar
  rw [hostfsPathProcess, hdisc]
  dsimp only [walkPath]
  have hstart : OnDisc rootPath ⟨[] ++ rootPath, [], none, []⟩ := ⟨.refl _, by simp⟩
  have hlook := lookAt_stays lp64Linux h hstart
  have hfirst : pathChar lp64Linux h s rootPath ⟨[], [], none, []⟩ 0x24 =
      lookAt lp64Linux h ⟨[] ++ rootPath, [], none, []⟩ := rfl
  rw [List.foldlM_cons, hfirst]
  cases hres : lookAt lp64Linux h ⟨[] ++ rootPath, [], none, []⟩ with
  | error v =>
    rw [hres] at hlook
    exact stopped_on hlook (lookAt_error hres)
  | ok v =>
    rw [hres] at hlook
    have hlength : rootPath.length < pathMax := by
      unfold lookAt at hres
      split at hres
      next info hinfo => exact length_of_objectInfo hinfo
      · cases hres
    have hwalk := walk_stays lp64Linux h hlength (csd_inDisc hcsds hroot) hdollar hlook.1 hlook.2
    show ResolvedOn rootPath (match tail.foldlM (pathChar lp64Linux h s rootPath) v with
      | .ok w => finish lp64Linux h w
      | .error w => ⟨w.hostPathname, w.info, some .notFound, w.opened⟩)
    cases hend : tail.foldlM (pathChar lp64Linux h s rootPath) v with
    | ok w =>
      rw [hend] at hwalk
      exact finish_on hwalk.1 hwalk.2
    | error w =>
      rw [hend] at hwalk
      exact stopped_on hwalk (walk_error hend)

end Process

/-! ## A leaf stays on its disc -/

section Leaf

variable {s : Discs} {rootPath dir oldPath roPath : Name} {load exec : UInt32}

lemma Clean.suffixed {leaf : Name} (hleaf : Clean 0x2f dots leaf) (load exec : UInt32) (n : Nat) :
    Clean 0x2f dots (leaf ++ (typeSuffix load exec).take n) := by
  refine hleaf.append (fun hmem => slash_typeSuffix load exec (List.mem_of_mem_take hmem)) fun c hc => ?_
  have hshape : (typeSuffix load exec).take n = [] ∨ ∃ t, (typeSuffix load exec).take n = 0x2c :: t := by
    cases n with
    | zero => exact .inl rfl
    | succ n =>
      unfold typeSuffix
      split
      · split
        · exact .inr ⟨_, rfl⟩
        · exact .inl rfl
      · exact .inr ⟨_, rfl⟩
  rcases hshape with hnil | ⟨t, ht⟩
  · rw [hnil, List.append_nil, hc]
  · rw [ht]
    have hcomma : (0x2c : UInt8) ∈ c ++ 0x2c :: t := by simp
    rw [Bool.eq_false_iff]
    intro hdots
    simp only [dots, Bool.or_eq_true, beq_iff_eq] at hdots
    rcases hdots with heq | heq
    · rw [heq] at hcomma
      exact absurd hcomma (by decide)
    · rw [heq] at hcomma
      exact absurd hcomma (by decide)

/-- **A leaf that is placed** where it may be is on the disc. -/
lemma pathConstruct_inDisc (hdir : InDisc rootPath dir) (hhostDir : hostDir oldPath = dir ++ [0x2f])
    (hslash : 0x2f ∈ oldPath) (hlength : oldPath.length < pathMax) (hplaces : PlacesLeaf s (hostDir oldPath) roPath) :
    InDisc rootPath (pathConstruct s.hostfsRoot oldPath roPath pathMax load exec) := by
  obtain ⟨-, -, hclean⟩ := hplaces
  have hsome : ¬((splitLast 0x2f oldPath).isNone && decide (pathMax < oldPath.length + 2)) = true := by
    cases hsplit : splitLast 0x2f oldPath with
    | none => exact absurd hslash (splitLast_eq_none.mp hsplit)
    | some p => simp
  have hnotdots : ∀ leaf : Name, Clean 0x2f dots leaf → ¬(leaf = [0x2e] ∨ leaf = [0x2e, 0x2e]) := by
    rintro leaf hleaf (rfl | rfl)
    · exact absurd hleaf (by decide)
    · exact absurd hleaf (by decide)
  obtain ⟨newLeaf, hnew⟩ : ∃ leaf, leaf =
      riscosPathToHost s.hostfsRoot (roLeafOf roPath) (pathMax - (hostDir oldPath).length - 1) := ⟨_, rfl⟩
  have hbuilt : pathConstruct s.hostfsRoot oldPath roPath pathMax load exec =
      if newLeaf = [0x2e] ∨ newLeaf = [0x2e, 0x2e] then []
      else
        hostDir oldPath ++ newLeaf ++
          (typeSuffix load exec).take (pathMax - (hostDir oldPath ++ newLeaf).length - 1) := by
    rw [hnew, pathConstruct, if_neg (Nat.not_le.mpr hlength)]
    dsimp only
    rw [if_neg hsome]
    rfl
  rw [← hnew] at hclean
  rw [hbuilt, if_neg (hnotdots _ hclean), List.append_assoc, hhostDir, List.append_assoc]
  exact hdir.child (Clean.suffixed hclean load exec _)

lemma placed_inDisc (hdir : InDisc rootPath dir) (hplaces : PlacesLeaf s (dir ++ [0x2f]) roPath) :
    InDisc rootPath (pathConstruct s.hostfsRoot (dir ++ [0x2f]) roPath pathMax load exec) := by
  have hhostDir : hostDir (dir ++ [0x2f]) = dir ++ [0x2f] := by
    rw [hostDir, splitLast_append_cons (List.not_mem_nil)]
  exact pathConstruct_inDisc hdir hhostDir (by simp) hplaces.2.1 (hhostDir.symm ▸ hplaces)

lemma replaced_inDisc (hpath : InDisc rootPath oldPath) (hne : oldPath ≠ rootPath)
    (hlength : oldPath.length < pathMax) (hplaces : PlacesLeaf s (hostDir oldPath) roPath) :
    InDisc rootPath (pathConstruct s.hostfsRoot oldPath roPath pathMax load exec) := by
  obtain ⟨rest, hrest, -⟩ := hpath.resolve_left hne
  have hslash : 0x2f ∈ oldPath := by simp [hrest]
  cases hsplit : splitLast 0x2f oldPath with
  | none => exact absurd hslash (splitLast_eq_none.mp hsplit)
  | some p =>
    obtain ⟨dir, leaf⟩ := p
    have hhostDir : hostDir oldPath = dir ++ [0x2f] := by rw [hostDir, hsplit]
    exact pathConstruct_inDisc (hpath.parent hne hsplit) hhostDir hslash hlength hplaces

end Leaf

/-! ## Every request -/

/-- All that a request does with a path is named by a disc. -/
structure PathNamed (s : Discs) (roPath : Name) (r : Resolved) : Prop where
  opened : ∀ call ∈ opens r, ∀ path ∈ call.paths, Named s path
  disc : (discPath s roPath).isSome → Named s r.hostPathname
  found : r.info.isSome → Named s r.hostPathname
  created : r.error = none → PlacesLeaf s (r.hostPathname ++ [0x2f]) roPath →
    Named s (r.hostPathname ++ [0x2f] ++
      riscosPathToHost s.hostfsRoot (roLeafOf roPath) (pathMax - (r.hostPathname ++ [0x2f]).length - 1))
  placed : r.error = none → PlacesLeaf s (r.hostPathname ++ [0x2f]) roPath → ∀ load exec,
    Named s (pathConstruct s.hostfsRoot (r.hostPathname ++ [0x2f]) roPath pathMax load exec)
  replaced : r.info.isSome → ReplacesLeaf s r.hostPathname roPath → ∀ load exec,
    Named s (pathConstruct s.hostfsRoot r.hostPathname roPath pathMax load exec)

section Requests

variable {lp64Linux : Bool} {h : Host} {s : Discs} {roPath : Name}

lemma named_of_inDisc {rootPath path : Name} (hroot : rootPath = s.hostfsRoot ∨ rootPath = s.sharedRoot)
    (hpath : InDisc rootPath path) : Named s path := by
  rcases hroot with rfl | rfl
  · exact .inl hpath
  · exact .inr hpath

variable (lp64Linux h) in
/-- **What each request is built from.** -/
lemma process_named (hcsds : CsdsInDisc s) (hok : PathOk s roPath) :
    PathNamed s roPath (hostfsPathProcess lp64Linux h s roPath) := by
  cases hdisc : discPath s roPath with
  | none =>
    have hprocess : hostfsPathProcess lp64Linux h s roPath = ⟨[], none, some .discNotFound, []⟩ := by
      rw [hostfsPathProcess, hdisc]
    rw [hprocess]
    refine ⟨List.forall_mem_nil _, fun hsome => ?_, fun hsome => ?_, ?_, ?_, ?_⟩
    · rw [hdisc] at hsome
      cases hsome
    · cases hsome
    · intro hsome
      cases hsome
    · intro hsome
      cases hsome
    · intro hsome
      cases hsome
  | some p =>
    obtain ⟨rootPath, path⟩ := p
    have hroot := (discPath_dollar hok.1 hdisc).1
    have hon := process_on lp64Linux h hcsds hok hdisc
    have hnamed : Named s (hostfsPathProcess lp64Linux h s roPath).hostPathname := named_of_inDisc hroot hon.path
    refine ⟨?_, fun _ => hnamed, fun _ => hnamed, ?_, ?_, ?_⟩
    · intro call hcall path hpath
      obtain ⟨dir, hdir, rfl⟩ := List.mem_map.mp hcall
      obtain rfl := List.mem_singleton.mp hpath
      exact named_of_inDisc hroot (hon.opened _ hdir)
    · intro _ hplaces
      rw [List.append_assoc]
      exact named_of_inDisc hroot (hon.path.child hplaces.2.2)
    · exact fun _ hplaces load exec => named_of_inDisc hroot (placed_inDisc hon.path hplaces)
    · intro hfound hreplaces load exec
      exact named_of_inDisc hroot
        (replaced_inDisc hon.path (hreplaces.1 _ _ hdisc) (hon.short (hon.found hfound)) hreplaces.2)

lemma named_append {calls calls' : List HostCall} (hfirst : ∀ call ∈ calls, ∀ path ∈ call.paths, Named s path)
    (hthen : ∀ call ∈ calls', ∀ path ∈ call.paths, Named s path) :
    ∀ call ∈ calls ++ calls', ∀ path ∈ call.paths, Named s path := fun call hcall =>
  (List.mem_append.mp hcall).elim (hfirst call) (hthen call)

lemma named_nil : ∀ call ∈ ([] : List HostCall), ∀ path ∈ call.paths, Named s path := nofun

lemma named_cons {call : HostCall} {calls : List HostCall} (hcall : ∀ path ∈ call.paths, Named s path)
    (hcalls : ∀ call ∈ calls, ∀ path ∈ call.paths, Named s path) :
    ∀ call' ∈ call :: calls, ∀ path ∈ call'.paths, Named s path := by
  intro call' hmem
  rcases List.mem_cons.mp hmem with rfl | hmem
  · exact hcall
  · exact hcalls call' hmem

lemma named_one {call : HostCall} {path : Name} (hpaths : call.paths = [path]) (hpath : Named s path) :
    ∀ call' ∈ [call], ∀ path ∈ call'.paths, Named s path := by
  refine named_cons ?_ named_nil
  rw [hpaths]
  intro path' hmem
  exact List.mem_singleton.mp hmem ▸ hpath

lemma named_rename {oldPath newPath : Name} (hold : Named s oldPath) (hnew : Named s newPath) :
    ∀ path ∈ (HostCall.rename oldPath newPath).paths, Named s path := by
  intro path hmem
  rcases List.mem_pair.mp hmem with rfl | rfl
  · exact hold
  · exact hnew

/-- **An allowed request is confined.** -/
lemma confined_of_allowed (hcsds : CsdsInDisc s) (e : Event) (hallowed : Allowed s e) : Confined s e := by
  cases e with
  | reset => exact named_nil
  | request lp64Linux h renames r =>
    have hprocess := fun roPath (hok : PathOk s roPath) =>
      process_named lp64Linux h hcsds hok
    cases r with
    | «open» roPath mode =>
      have hpath := hprocess roPath hallowed
      refine named_append hpath.opened ?_
      split
      next hopens => exact named_one rfl (hpath.found hopens.1)
      next => exact named_nil
    | writeFile roPath load exec =>
      obtain ⟨hok, hplaces⟩ := hallowed
      have hpath := hprocess roPath hok
      refine named_append hpath.opened ?_
      split
      next hinfo =>
        rw [hinfo] at hplaces
        split
        next => exact named_nil
        next herror =>
          have herror := Option.not_isSome_iff_eq_none.mp herror
          exact named_one rfl (hpath.placed herror (hplaces herror) load exec)
      next hinfo =>
        rw [hinfo] at hplaces
        have hfound := Option.isSome_of_eq_some hinfo
        have hnew := hpath.replaced hfound hplaces load exec
        refine named_cons (named_rename (hpath.found hfound) hnew) ?_
        split
        · exact named_one rfl hnew
        · exact named_nil
      next => exact named_nil
    | writeCatInfo roPath load exec =>
      obtain ⟨hok, hplaces⟩ := hallowed
      have hpath := hprocess roPath hok
      refine named_append hpath.opened ?_
      split
      next hinfo =>
        rw [hinfo] at hplaces
        have hfound := Option.isSome_of_eq_some hinfo
        exact named_cons (named_rename (hpath.found hfound) (hpath.replaced hfound hplaces load exec)) named_nil
      next => exact named_nil
    | readCatInfo roPath => exact (hprocess roPath hallowed).opened
    | delete roPath =>
      have hpath := hprocess roPath hallowed
      refine named_append hpath.opened ?_
      split
      next => exact named_nil
      next hinfo => exact named_one rfl (hpath.found (Option.isSome_of_eq_some hinfo))
      next hinfo => exact named_one rfl (hpath.found (Option.isSome_of_eq_some hinfo))
    | createDir roPath =>
      obtain ⟨hok, hplaces⟩ := hallowed
      have hpath := hprocess roPath hok
      show ∀ call ∈ hostfsFile8CreateDir lp64Linux h s roPath, _
      unfold hostfsFile8CreateDir
      split
      · exact named_nil
      · refine named_append hpath.opened ?_
        split
        next => exact named_nil
        next hgoes =>
          simp only [not_or, Option.not_isSome_iff_eq_none, not_not, Nat.not_lt] at hgoes
          obtain ⟨hinfo, herror, hdot, hlength⟩ := hgoes
          exact named_one rfl (hpath.created herror (hplaces hinfo herror hdot hlength))
    | loadFile roPath =>
      have hpath := hprocess roPath hallowed.1
      exact named_append hpath.opened (named_one rfl (hpath.disc hallowed.2))
    | chdir roPath =>
      have hpath := hprocess roPath hallowed.1
      show ∀ call ∈ (hostfsFunc0Chdir lp64Linux h s roPath).2, _
      unfold hostfsFunc0Chdir
      dsimp only
      split <;> exact hpath.opened
    | rename roPath1 roPath2 =>
      obtain ⟨hok1, hok2, hplaces⟩ := hallowed
      have hpath1 := hprocess roPath1 hok1
      have hpath2 := hprocess roPath2 hok2
      refine named_append (named_append hpath1.opened hpath2.opened) ?_
      split
      next => exact named_nil
      next info1 hinfo1 =>
        have hfound1 := Option.isSome_of_eq_some hinfo1
        have hold := hpath1.found hfound1
        have hplaces := hplaces hfound1
        split
        next hfound2 =>
          rw [if_pos hfound2] at hplaces
          split
          next => exact named_nil
          next hsame =>
            exact named_cons (named_rename hold (hpath2.replaced hfound2 (hplaces (not_not.mp hsame)) _ _)) named_nil
        next hmissing =>
          rw [if_neg hmissing] at hplaces
          split
          next => exact named_nil
          next herror =>
            have herror := Option.not_isSome_iff_eq_none.mp herror
            exact named_cons (named_rename hold (hpath2.placed herror (hplaces herror) _ _)) named_nil
    | readDir roPath =>
      have hpath := hprocess roPath hallowed
      refine named_append hpath.opened ?_
      split
      next hinfo => exact named_one rfl (hpath.found (Option.isSome_of_eq_some hinfo))
      next => exact named_nil

lemma inShared_iff {path : Name} :
    inShared s path = true ↔ ∃ u, path = s.sharedRoot ++ u ∧ (u = [] ∨ u.head? = some 0x2f) := by
  rw [inShared, Bool.and_eq_true, List.isPrefixOf_iff_prefix, Bool.or_eq_true, List.isEmpty_iff, beq_iff_eq]
  constructor
  · rintro ⟨⟨u, rfl⟩, hu⟩
    rw [List.drop_left] at hu
    exact ⟨u, rfl, hu⟩
  · rintro ⟨u, rfl, hu⟩
    rw [List.drop_left]
    exact ⟨List.prefix_append _ _, hu⟩

lemma inShared_of_inDisc {path : Name} (hpath : InDisc s.sharedRoot path) : inShared s path = true := by
  rcases hpath with rfl | ⟨rest, rfl, -⟩
  · exact inShared_iff.mpr ⟨[], by simp, .inl rfl⟩
  · exact inShared_iff.mpr ⟨_, rfl, .inr rfl⟩

/-- **A directory that is selected** is on the disc it is selected on. -/
lemma csds_chdir (hcsds : CsdsInDisc s) (hok : PathOk s roPath)
    (hroots : ∀ rest, s.hostfsRoot = s.sharedRoot ++ 0x2f :: rest → Clean 0x2f dots rest) :
    CsdsInDisc (hostfsFunc0Chdir lp64Linux h s roPath).1 := by
  unfold hostfsFunc0Chdir
  dsimp only
  split
  next => exact hcsds
  next hgoes =>
    simp only [not_or, Option.not_isSome_iff_eq_none] at hgoes
    obtain ⟨herror, -⟩ := hgoes
    cases hdisc : discPath s roPath with
    | none =>
      rw [hostfsPathProcess, hdisc] at herror
      cases herror
    | some p =>
      obtain ⟨rootPath, path⟩ := p
      have hroot := (discPath_dollar hok.1 hdisc).1
      have hon := process_on lp64Linux h hcsds hok hdisc
      have hlength := hon.short herror
      revert hon hlength
      generalize (hostfsPathProcess lp64Linux h s roPath) = r
      intro hon hlength
      have htake : r.hostPathname.take (pathMax - 1) = r.hostPathname := List.take_of_length_le (by omega)
      rw [hostfsSetCsdForRoot, htake]
      cases hin : inShared s r.hostPathname with
      | true =>
        rw [if_pos rfl, if_pos rfl]
        refine ⟨hcsds.hostfs, ?_⟩
        obtain ⟨u, hspelled, hu⟩ := inShared_iff.mp hin
        rcases hroot with rfl | rfl
        · exact hon.path.of_spelled hspelled hu hroots
        · exact hon.path
      | false =>
        have hpath : InDisc s.hostfsRoot r.hostPathname := by
          rcases hroot with rfl | rfl
          · exact hon.path
          · exact absurd (inShared_of_inDisc hon.path) (by rw [hin]; exact Bool.false_ne_true)
        rw [if_neg Bool.false_ne_true]
        split
        next hsame => exact ⟨hcsds.hostfs, hsame ▸ hpath⟩
        next => exact ⟨hpath, hcsds.shared⟩

lemma csds_serve (hcsds : CsdsInDisc s) (e : Event) (hallowed : Allowed s e) : CsdsInDisc (served s e) := by
  cases e with
  | reset => exact ⟨.refl _, .refl _⟩
  | request lp64Linux h renames r =>
    cases r with
    | chdir roPath => exact csds_chdir hcsds hallowed.1 hallowed.2
    | _ => exact hcsds

end Requests

/-- **HostFS names nothing outside its discs** in a run of allowed requests: whatever the two roots, the paths that
are asked for, and the host at each request. -/
theorem requests_confined (hostfsRoot sharedRoot : Name) (es : List Event)
    (hallowed : Runs.Along served Allowed (hostfsInit hostfsRoot sharedRoot) es) :
    Runs.Along served Confined (hostfsInit hostfsRoot sharedRoot) es :=
  Runs.along_of_inv (I := CsdsInDisc) (fun _ e hcsds => csds_serve hcsds e) (fun _ e hcsds => confined_of_allowed hcsds e)
    es _ ⟨.refl _, .refl _⟩ hallowed

/-! ## A host with one file -/

lemma readme_listed : ∀ e ∈ [ext "readme"], 0x2f ∉ e ∧ e.length < 4000 := by decide

def readmeDir : Host := oneDir [ext "readme"] readme_listed

lemma pathOk_of_all {s : Discs} {roPath : Name} (hro : isRoPath roPath = true)
    (hdollar : (discPath s roPath).all (fun p => !p.2.tail.contains 0x24) = true) : PathOk s roPath := by
  refine ⟨hro, fun rootPath path hdisc hmem => ?_⟩
  rw [hdisc] at hdollar
  simp [hmem] at hdollar

theorem requests_confined_readme :
    Runs.Along served Confined (hostfsInit (ext "/h") (ext "/s"))
      [.request true readmeDir true (.writeFile (ext "$.new") 0xffffff00 0),
        .request true readmeDir true (.createDir (ext "$.Dir")), .request true readmeDir true (.chdir (ext "$"))] := by
  refine requests_confined (ext "/h") (ext "/s") _ ?_
  simp only [Runs.along_cons, Runs.along_nil, and_true]
  refine ⟨⟨pathOk_of_all (by decide) (by decide), fun _ => ⟨by decide, by decide, by decide⟩⟩,
    ⟨pathOk_of_all (by decide) (by decide), fun _ _ _ _ => ⟨by decide, by decide, by decide⟩⟩,
    pathOk_of_all (by decide) (by decide), fun rest hrest => ?_⟩
  have hletter : (0x68 : UInt8) = 0x73 := (List.cons.inj (List.cons.inj hrest).2).1
  exact absurd hletter (by decide)

theorem requests_not_confined :
    ¬Confined (hostfsInit (ext "/h") (ext "/s")) (.request true readmeDir true (.createDir (ext "$.//"))) ∧
      ¬Confined (hostfsInit (ext "/h") (ext "/s"))
        (.request true readmeDir true (.writeFile (ext "$.readme.^") 0xffffff00 0)) ∧
      ¬Confined (hostfsInit (ext "/h") (ext "/s")) (.request true readmeDir true (.loadFile (ext ":x"))) := by
  decide

end RpcEmu.Hostfs
