import RpcEmu.Hostfs.ObjectInfo

/-!
# From a RISC OS path to a host path

`hostfs_path_process` of `hostfs.c`, and what it looks things up with.  The host's directories and files are a
parameter: what `readdir` and `stat` say at the moment.

* **A walk.**  The path is read a character at a time; `pathChar` is what one does to the host path so far and to
  the component that is being collected.
* Paths are as long as they come: the buffers of `PATH_MAX` bytes that hold them are not in the model.
-/

namespace RpcEmu.Hostfs

open SplitLast

/-- `PATH_MAX`. -/
def pathMax : Nat := 4096

structure Host where
  /-- What `readdir` gives of a directory that can be opened. -/
  readdir : Name → Option (List Name)
  stat : Name → Option Stat
  /-- An entry is a name and no path. -/
  entry_plain : ∀ {dir entries e}, readdir dir = some entries → e ∈ entries → 0x2f ∉ e
  /-- There is no finding a path that is too long. -/
  stat_long : ∀ {path}, pathMax ≤ path.length → stat path = none

structure Discs where
  hostfsRoot : Name
  sharedRoot : Name
  csdHostfs : Name
  csdShared : Name

/-- `hostfs_disc_name_valid`. -/
def hostfsDiscNameValid (discName : Name) : Bool :=
  asciiCasecmp discName (ext "HostFS") == 0 || asciiCasecmp discName (ext "Shared") == 0

/-- `hostfs_get_root_for_disc`. -/
def hostfsGetRootForDisc (s : Discs) (discName : Name) : Name :=
  if asciiCasecmp discName (ext "Shared") == 0 then s.sharedRoot else s.hostfsRoot

/-- `hostfs_get_csd_for_root`. -/
def hostfsGetCsdForRoot (s : Discs) (rootPath : Name) : Name :=
  if rootPath = s.sharedRoot then s.csdShared else s.csdHostfs

/-- `hostfs_path_go_parent`. -/
def hostfsPathGoParent (hostPathname rootPath : Name) : Name :=
  if hostPathname = [] ∨ hostPathname = rootPath then rootPath
  else
    match splitLast 0x2f hostPathname with
    | none => rootPath
    | some (dir, _) =>
      -- keep at least the root
      if dir.length ≤ rootPath.length then rootPath
      else if rootPath.isPrefixOf dir then dir
      else rootPath

section Lookup

variable (lp64Linux : Bool) (h : Host)

/-- `hostfs_read_object_info`, without the leafname. -/
def objectInfo (hostPathname : Name) : Option ObjectInfo :=
  (hostfsReadObjectInfo lp64Linux h.stat hostPathname).map Prod.fst

def dots (entry : Name) : Bool := entry == [0x2e] || entry == [0x2e, 0x2e]

def dotted (roLeaf : Name) : Name := roLeaf.map fun ch => if ch = 0x2f then 0x2e else ch

/-- `hostfs_path_scan`: the first entry of that name that there is anything to read of. -/
def hostfsPathScan (hostDirPath object : Name) : Option (Name × ObjectInfo) :=
  (h.readdir hostDirPath).bind fun entries => entries.findSome? fun entry =>
    if dots entry || asciiCasecmp (dotted (hostLeafToRoLeaf entry)) object != 0 then none
    else (objectInfo lp64Linux h (hostDirPath ++ 0x2f :: entry)).map fun info => (entry, info)

end Lookup

/-! ## The walk -/

/-- `enum FILECORE_ERROR`, of a path. -/
inductive FilecoreError
  | discNotFound | notFound
  deriving DecidableEq

/-- The host path so far, the component that is being collected, the object that was last looked at, and the
directories that were opened. -/
structure Walk where
  hostPathname : Name
  component : Name
  info : Option ObjectInfo
  opened : List Name

structure Resolved where
  hostPathname : Name
  /-- None for `OBJECT_TYPE_NOT_FOUND`. -/
  info : Option ObjectInfo
  error : Option FilecoreError
  opened : List Name

section Walk

variable (lp64Linux : Bool) (h : Host) (s : Discs) (rootPath : Name)

def lookAt (w : Walk) : Except Walk Walk :=
  match objectInfo lp64Linux h w.hostPathname with
  | some info => .ok { w with info := some info }
  | none => .error { w with info := none }

def takeComponent (w : Walk) : Except Walk Walk :=
  match hostfsPathScan lp64Linux h w.hostPathname w.component with
  | some (name, info) =>
    .ok { hostPathname := w.hostPathname ++ 0x2f :: name, component := [], info := some info
          opened := w.opened ++ [w.hostPathname] }
  | none => .error { w with info := none, opened := w.opened ++ [w.hostPathname] }

def pathChar (w : Walk) (ch : UInt8) : Except Walk Walk :=
  match ch with
  | 0x24 => lookAt lp64Linux h { w with hostPathname := w.hostPathname ++ rootPath } -- '$'
  | 0x2e => if w.component ≠ [] then takeComponent lp64Linux h w else .ok w -- '.'
  | 0x2f => .ok { w with component := w.component ++ [0x2e] } -- '/'
  | 0x5e => -- '^'
    .ok { w with hostPathname := hostfsPathGoParent w.hostPathname rootPath, component := [] }
  | 0x40 => -- '@'
    (lookAt lp64Linux h { w with hostPathname := hostfsGetCsdForRoot s rootPath }).map
      fun w => { w with component := [] }
  | ch => .ok { w with component := w.component ++ [ch] }

def finish (w : Walk) : Resolved :=
  match if w.component ≠ [] then takeComponent lp64Linux h w else .ok w with
  | .ok w => ⟨w.hostPathname, w.info, none, w.opened⟩
  | .error w => ⟨w.hostPathname, w.info, none, w.opened⟩

/-- The path from its `$` on. -/
def walkPath (roPath : Name) : Resolved :=
  match roPath.foldlM (pathChar lp64Linux h s rootPath) ⟨[], [], none, []⟩ with
  | .ok w => finish lp64Linux h w
  | .error w => ⟨w.hostPathname, w.info, some .notFound, w.opened⟩

end Walk

/-- The root of the disc that a path names, and the path from its `$` on. -/
def discPath (s : Discs) (roPath : Name) : Option (Name × Name) :=
  match roPath with
  | 0x3a :: rest =>
    match splitLast 0x2e (rest.takeWhile (· ≠ 0x24)) with
    | some (discName, []) =>
      if rest.dropWhile (· ≠ 0x24) ≠ [] ∧ discName.length < 80 ∧ hostfsDiscNameValid discName then
        some (hostfsGetRootForDisc s discName, rest.dropWhile (· ≠ 0x24))
      else none
    | _ => none
  | _ => some (s.hostfsRoot, roPath)

/-- The `assert` of `hostfs_path_process`. -/
def isRoPath (roPath : Name) : Bool := roPath.head? == some 0x24 || roPath.head? == some 0x3a

/-- `hostfs_path_process`, of a path that starts as the `assert` has it. -/
def hostfsPathProcess (lp64Linux : Bool) (h : Host) (s : Discs) (roPath : Name) : Resolved :=
  match discPath s roPath with
  | some (rootPath, path) => walkPath lp64Linux h s rootPath path
  | none => ⟨[], none, some .discNotFound, []⟩

/-! ## What a walk does -/

section Walked

variable {lp64Linux : Bool} {h : Host} {s : Discs} {rootPath : Name}

lemma scan_some {dir object entry : Name} {info : ObjectInfo}
    (hscan : hostfsPathScan lp64Linux h dir object = some (entry, info)) :
    0x2f ∉ entry ∧ dots entry = false ∧ asciiCasecmp (dotted (hostLeafToRoLeaf entry)) object = 0 ∧
      objectInfo lp64Linux h (dir ++ 0x2f :: entry) = some info := by
  obtain ⟨entries, hdir, hfind⟩ := Option.bind_eq_some_iff.mp hscan
  obtain ⟨e, he, hfound⟩ := List.exists_of_findSome?_eq_some hfind
  obtain ⟨hother, hfound'⟩ := Option.ite_none_left_eq_some.mp hfound
  obtain ⟨info', hinfo, hsame⟩ := Option.map_eq_some_iff.mp hfound'
  obtain ⟨rfl, rfl⟩ := Prod.mk.inj hsame
  simp only [Bool.or_eq_true, bne_iff_ne, ne_eq, not_or, Bool.not_eq_true, not_not] at hother
  exact ⟨h.entry_plain hdir he, hother.1, hother.2, hinfo⟩

lemma lookAt_error {w w' : Walk} (hw : lookAt lp64Linux h w = .error w') : w'.info = none := by
  unfold lookAt at hw
  split at hw
  · cases hw
  · obtain rfl := Except.error.inj hw
    rfl

lemma takeComponent_error {w w' : Walk} (hw : takeComponent lp64Linux h w = .error w') : w'.info = none := by
  unfold takeComponent at hw
  split at hw
  · cases hw
  · obtain rfl := Except.error.inj hw
    rfl

/-- Not a character with a meaning of its own in a path. -/
def isPlain (ch : UInt8) : Prop := ch ≠ 0x24 ∧ ch ≠ 0x2e ∧ ch ≠ 0x5e ∧ ch ≠ 0x40

lemma pathChar_error {w w' : Walk} {ch : UInt8} (hw : pathChar lp64Linux h s rootPath w ch = .error w') :
    w'.info = none := by
  unfold pathChar at hw
  split at hw
  · exact lookAt_error hw
  · split at hw
    · exact takeComponent_error hw
    · cases hw
  · cases hw
  · cases hw
  · cases hlook : lookAt lp64Linux h { w with hostPathname := hostfsGetCsdForRoot s rootPath } with
    | ok v => rw [hlook] at hw; cases hw
    | error v =>
      rw [hlook] at hw
      obtain rfl := Except.error.inj hw
      exact lookAt_error hlook
  · cases hw

lemma walk_error {path : Name} {w w' : Walk}
    (hw : path.foldlM (pathChar lp64Linux h s rootPath) w = .error w') : w'.info = none := by
  induction path generalizing w with
  | nil => cases hw
  | cons ch path ih =>
    rw [List.foldlM_cons] at hw
    cases hchar : pathChar lp64Linux h s rootPath w ch with
    | error v =>
      rw [hchar] at hw
      obtain rfl := Except.error.inj hw
      exact pathChar_error hchar
    | ok v =>
      rw [hchar] at hw
      exact ih hw

lemma walk_append {path rest : Name} {w v : Walk} :
    (path ++ rest).foldlM (pathChar lp64Linux h s rootPath) w = .ok v ↔
      ∃ u, path.foldlM (pathChar lp64Linux h s rootPath) w = .ok u ∧
        rest.foldlM (pathChar lp64Linux h s rootPath) u = .ok v := by
  rw [List.foldlM_append]
  cases hwalk : path.foldlM (pathChar lp64Linux h s rootPath) w with
  | ok u =>
    constructor
    · exact fun hrest => ⟨u, rfl, hrest⟩
    · rintro ⟨u', hu, hrest⟩
      cases hu
      exact hrest
  | error u =>
    constructor
    · intro hstop
      cases hstop
    · rintro ⟨u', hu, -⟩
      cases hu

lemma pathChar_plain {w : Walk} {ch : UInt8} (hch : isPlain ch) :
    pathChar lp64Linux h s rootPath w ch =
      .ok { w with component := w.component ++ [if ch = 0x2f then 0x2e else ch] } := by
  obtain ⟨hdollar, hdot, hcaret, hat⟩ := hch
  by_cases hslash : ch = 0x2f
  · subst hslash
    rfl
  · rw [if_neg hslash, pathChar] <;> assumption

lemma walk_plain {leaf : Name} {w : Walk} (hleaf : ∀ ch ∈ leaf, isPlain ch) :
    leaf.foldlM (pathChar lp64Linux h s rootPath) w = .ok { w with component := w.component ++ dotted leaf } := by
  induction leaf generalizing w with
  | nil => simp [dotted, pure, Except.pure]
  | cons ch leaf ih =>
    rw [List.foldlM_cons, pathChar_plain (hleaf ch List.mem_cons_self)]
    refine (ih fun c hc => hleaf c (List.mem_cons_of_mem ch hc)).trans ?_
    simp [dotted]

variable (s rootPath) in
lemma pathChar_dot {w : Walk} {info : ObjectInfo} {hostPathname : Name}
    (hfinish : (finish lp64Linux h w).info = some info) (hpath : (finish lp64Linux h w).hostPathname = hostPathname) :
    ∃ w', pathChar lp64Linux h s rootPath w 0x2e = .ok w' ∧ w'.hostPathname = hostPathname ∧ w'.component = [] ∧
      w'.info = some info := by
  have hdot : pathChar lp64Linux h s rootPath w 0x2e =
      if w.component ≠ [] then takeComponent lp64Linux h w else .ok w := rfl
  rw [hdot]
  unfold finish at hfinish hpath
  cases hnext : (if w.component ≠ [] then takeComponent lp64Linux h w else Except.ok w) with
  | ok v =>
    rw [hnext] at hfinish hpath
    refine ⟨v, rfl, hpath, ?_, hfinish⟩
    split at hnext
    · unfold takeComponent at hnext
      split at hnext
      · obtain rfl := Except.ok.inj hnext
        rfl
      · cases hnext
    next hempty =>
      obtain rfl := Except.ok.inj hnext
      exact not_not.mp hempty
  | error v =>
    rw [hnext] at hfinish
    split at hnext
    · exact absurd (hfinish.symm.trans (takeComponent_error hnext)) (by simp)
    · cases hnext

lemma discPath_colon {tail path : Name} :
    discPath s (0x3a :: tail) = some (rootPath, path) ↔
      ∃ discName, splitLast 0x2e (tail.takeWhile (· ≠ 0x24)) = some (discName, []) ∧
        (tail.dropWhile (· ≠ 0x24) ≠ [] ∧ discName.length < 80 ∧ hostfsDiscNameValid discName = true) ∧
        hostfsGetRootForDisc s discName = rootPath ∧ tail.dropWhile (· ≠ 0x24) = path := by
  rw [discPath]
  constructor
  · intro hpath
    split at hpath
    next discName hname =>
      obtain ⟨hvalid, hsame⟩ := Option.ite_none_right_eq_some.mp hpath
      obtain ⟨hroot, hrest⟩ := Prod.mk.inj (Option.some.inj hsame)
      exact ⟨discName, hname, hvalid, hroot, hrest⟩
    · cases hpath
  · rintro ⟨discName, hname, hvalid, rfl, rfl⟩
    rw [hname]
    dsimp only
    rw [if_pos hvalid]

lemma discPath_plain {ch : UInt8} (hch : ch ≠ 0x3a) (tail : Name) :
    discPath s (ch :: tail) = some (s.hostfsRoot, ch :: tail) := by
  unfold discPath
  split
  next heq => exact absurd (List.cons.inj heq).1 hch
  next => rfl

lemma discPath_append {roPath path rest : Name} (hpath : discPath s roPath = some (rootPath, path))
    (hro : isRoPath roPath = true) : discPath s (roPath ++ rest) = some (rootPath, path ++ rest) := by
  cases roPath with
  | nil => cases hro
  | cons ch tail =>
    by_cases hch : ch = 0x3a
    · subst hch
      obtain ⟨discName, hname, hrest, hroot, rfl⟩ := discPath_colon.mp hpath
      have htake : (tail ++ rest).takeWhile (· ≠ 0x24) = tail.takeWhile (· ≠ 0x24) := by
        rw [List.takeWhile_append, if_neg]
        intro hlength
        have hsame := congrArg List.length (List.takeWhile_append_dropWhile (p := (· ≠ (0x24 : UInt8))) (l := tail))
        rw [List.length_append] at hsame
        exact hrest.1 (List.length_eq_zero_iff.mp (by omega))
      have hdrop : (tail ++ rest).dropWhile (· ≠ 0x24) = tail.dropWhile (· ≠ 0x24) ++ rest := by
        rw [List.dropWhile_append, if_neg (by simpa [List.isEmpty_iff] using hrest.1)]
      rw [List.cons_append]
      refine discPath_colon.mpr ⟨discName, by rw [htake, hname], ?_, hroot, hdrop⟩
      rw [hdrop]
      exact ⟨fun hnil => hrest.1 (List.append_eq_nil_iff.mp hnil).1, hrest.2⟩
    · rw [discPath_plain hch] at hpath
      obtain ⟨rfl, rfl⟩ := Prod.mk.inj (Option.some.inj hpath)
      exact discPath_plain hch (tail ++ rest)

end Walked

end RpcEmu.Hostfs
