import Mathlib.Data.List.Sort
import RpcEmu.Hostfs.Paths

/-!
# What a directory's listing names

`hostfs_cache_dir` and `hostfs_read_dir` of `hostfs.c`, and whether a name that they give leads back to the entry
it was given for.

* **The listing** has the RISC OS leafname of every entry that there is anything to read of, in order of name.
* **The path** is read by other rules than the name was made by: `name_host_to_riscos` takes care of `$` and `^`,
  which mean something in a path, and lets `@` through; and a name that is nothing but a suffix has an empty
  leafname.  `listed_found_iff` says that there is no third case.
-/

namespace RpcEmu.Hostfs

open SplitLast

/-! ## The listing -/

/-- `cache_directory_entry`, with its name. -/
structure CacheDirectoryEntry where
  name : Name
  objectInfo : ObjectInfo

/-- `strcasecmp` has the first name in front of the second, or finds them the same. -/
def casecmpLe (a b : Name) : Bool := decide (a.map asciiLower ≤ b.map asciiLower)

def cacheEntry (lp64Linux : Bool) (h : Host) (directoryName entry : Name) : Option CacheDirectoryEntry :=
  if dots entry then none
  else
    (hostfsReadObjectInfo lp64Linux h.stat (directoryName ++ 0x2f :: entry)).bind fun p =>
      p.2.map fun roLeaf => ⟨roLeaf, p.1⟩

/-- `hostfs_cache_dir`: none where the directory does not open. -/
def hostfsCacheDir (lp64Linux : Bool) (h : Host) (directoryName : Name) : Option (List CacheDirectoryEntry) :=
  (h.readdir directoryName).map fun entries =>
    (entries.filterMap (cacheEntry lp64Linux h directoryName)).insertionSort fun a b => casecmpLe a.name b.name = true

/-- `ROUND_UP_TO_4`. -/
def roundUpTo4 (n : Nat) : Nat := (n + 3) / 4 * 4

def entrySpace (withInfo withTimestamp : Bool) (name : Name) : Nat :=
  if withInfo then
    if withTimestamp then roundUpTo4 (6 * 4 + 5 + (name.length + 1)) else roundUpTo4 (5 * 4 + (name.length + 1))
  else name.length + 1

def returnEntries (withInfo withTimestamp : Bool) : Nat → Nat → List CacheDirectoryEntry → List CacheDirectoryEntry
  | num + 1, remaining, entry :: entries =>
    if remaining < entrySpace withInfo withTimestamp entry.name then []
    else entry :: returnEntries withInfo withTimestamp num (remaining - entrySpace withInfo withTimestamp entry.name) entries
  | _, _, _ => []

/-- What `hostfs_read_dir` returns: the entries, and R3 and R4. -/
structure DirReply where
  entries : List CacheDirectoryEntry
  r3 : UInt32
  r4 : UInt32

/-- `hostfs_read_dir`.  `cached_directory` is never written, so every call reads the directory; none where that
does not open. -/
def hostfsReadDir (lp64Linux : Bool) (h : Host) (s : Discs) (roPath : Name) (r3 r4 r5 : UInt32)
    (withInfo withTimestamp : Bool) : Option DirReply :=
  let resolved := hostfsPathProcess lp64Linux h s roPath
  match resolved.info with
  | some ⟨.directory, _, _, _, _⟩ =>
    (hostfsCacheDir lp64Linux h resolved.hostPathname).map fun cache =>
      let entries := returnEntries withInfo withTimestamp r3.toNat r5.toNat (cache.drop r4.toNat)
      let offset := r4 + UInt32.ofNat entries.length
      { entries := entries
        r3 := UInt32.ofNat entries.length
        r4 := if cache.length ≤ offset.toNat ∧ entries = [] then 0xffffffff else offset }
  | _ => some ⟨[], 0, 0xffffffff⟩

lemma mem_of_returnEntries {withInfo withTimestamp : Bool} {num remaining : Nat} {entries : List CacheDirectoryEntry}
    {c : CacheDirectoryEntry} (hc : c ∈ returnEntries withInfo withTimestamp num remaining entries) : c ∈ entries := by
  induction entries generalizing num remaining with
  | nil =>
    cases num with
    | zero => cases hc
    | succ num => cases hc
  | cons entry entries ih =>
    cases num with
    | zero => cases hc
    | succ num =>
      rw [returnEntries] at hc
      split at hc
      · cases hc
      · rcases List.mem_cons.mp hc with rfl | hc
        · exact List.mem_cons_self
        · exact List.mem_cons_of_mem _ (ih hc)

/-! ## The names in it -/

section Leafnames

variable {entry : Name}

lemma mem_nameHostToRiscos {name : Name} {c : UInt8} (hc : c ∈ nameHostToRiscos name) :
    0x80 ≤ c ∨ ∃ b ∈ name, riscosChar b = c := by
  induction name using nameHostToRiscos.induct with
  | case1 ch next name hpair ih =>
    rw [nameHostToRiscos, if_pos hpair] at hc
    rcases List.mem_cons.mp hc with rfl | hc
    · left
      have hlead : ch = 0xc2 ∨ ch = 0xc3 := by
        simp only [Bool.and_eq_true, Bool.or_eq_true, beq_iff_eq] at hpair
        exact hpair.1
      have hfolded : (0x80 : UInt8) ≤ (ch &&& 0x1f) <<< 6 := by
        rcases hlead with rfl | rfl <;> decide
      rw [UInt8.or_comm]
      exact UInt8.le_trans hfolded (right_le_or _ _)
    · obtain hhigh | ⟨b, hb, hsame⟩ := ih hc
      · exact .inl hhigh
      · exact .inr ⟨b, by simp [hb], hsame⟩
  | case2 ch next name hpair ih =>
    rw [nameHostToRiscos, if_neg hpair] at hc
    rcases List.mem_cons.mp hc with rfl | hc
    · exact .inr ⟨ch, List.mem_cons_self, rfl⟩
    · obtain hhigh | ⟨b, hb, hsame⟩ := ih hc
      · exact .inl hhigh
      · exact .inr ⟨b, List.mem_cons_of_mem ch hb, hsame⟩
  | case3 ch => exact .inr ⟨ch, List.mem_cons_self, (List.mem_singleton.mp hc).symm⟩
  | case4 => cases hc

lemma leafname_chars (hentry : 0x2f ∉ entry) :
    ∀ ch ∈ hostLeafToRoLeaf entry, ch ≠ 0x24 ∧ ch ≠ 0x2e ∧ ch ≠ 0x5e := by
  have hback : ∀ b : UInt8, b ≠ 0x2f → riscosChar b ≠ 0x24 ∧ riscosChar b ≠ 0x2e ∧ riscosChar b ≠ 0x5e :=
    forall_byte (by decide +kernel)
  have hname : ∀ name : Name, 0x2f ∉ name → ∀ ch ∈ nameHostToRiscos name, ch ≠ 0x24 ∧ ch ≠ 0x2e ∧ ch ≠ 0x5e := by
    intro name hslash ch hch
    rcases mem_nameHostToRiscos hch with hhigh | ⟨b, hb, rfl⟩
    · refine ⟨?_, ?_, ?_⟩ <;> (rintro rfl; exact absurd hhigh (by decide))
    · exact hback b fun heq => hslash (heq ▸ hb)
  unfold hostLeafToRoLeaf
  split
  next stem suffix hsuffix =>
    refine hname stem fun hmem => hentry ?_
    unfold leafSuffix at hsuffix
    split at hsuffix
    next stem' rest hsplit =>
      obtain ⟨_, -, hsame⟩ := Option.map_eq_some_iff.mp hsuffix
      obtain ⟨rfl, -⟩ := Prod.mk.inj hsame
      rw [(splitLast_eq_some.mp hsplit).1]
      exact List.mem_append_left _ hmem
    · cases hsuffix
  · exact hname entry hentry

lemma dotted_casecmp {a b : Name} (ha : 0x2e ∉ a) (hb : 0x2e ∉ b) :
    asciiCasecmp (dotted a) (dotted b) = 0 ↔ asciiCasecmp a b = 0 := by
  have hdot : ∀ x : UInt8, asciiLower x = 0x2e ↔ x = 0x2e := forall_byte (by decide +kernel)
  have hslash : ∀ x : UInt8, asciiLower x = 0x2f ↔ x = 0x2f := forall_byte (by decide +kernel)
  have hchar : ∀ x y : UInt8, x ≠ 0x2e → y ≠ 0x2e →
      (asciiLower (if x = 0x2f then 0x2e else x) = asciiLower (if y = 0x2f then 0x2e else y) ↔
        asciiLower x = asciiLower y) := by
    intro x y hx hy
    split
    next hx' =>
      subst hx'
      split
      next hy' => exact iff_of_true rfl (congrArg asciiLower hy'.symm)
      next hy' => exact iff_of_false (fun heq => hy ((hdot y).mp heq.symm)) fun heq => hy' ((hslash y).mp heq.symm)
    next hx' =>
      split
      next hy' =>
        subst hy'
        exact iff_of_false (fun heq => hx ((hdot x).mp heq)) fun heq => hx' ((hslash x).mp heq)
      next => rfl
  rw [asciiCasecmp_eq_zero, asciiCasecmp_eq_zero]
  induction a generalizing b with
  | nil => cases b <;> simp [dotted]
  | cons x a ih =>
    cases b with
    | nil => simp [dotted]
    | cons y b =>
      rw [List.mem_cons, not_or] at ha hb
      have ih := ih ha.2 hb.2
      simp only [dotted, List.map_cons, List.cons.injEq] at ih ⊢
      exact and_congr (hchar x y (Ne.symm ha.1) (Ne.symm hb.1)) ih

end Leafnames

/-! ## Back to the entry -/

/-- No two entries have one RISC OS leafname. -/
def DistinctLeafnames (h : Host) (dir : Name) : Prop :=
  ∀ entries, h.readdir dir = some entries →
    (entries.filter fun e => !dots e).Pairwise fun a b => asciiCasecmp (hostLeafToRoLeaf a) (hostLeafToRoLeaf b) ≠ 0

/-- The path is found, as this host object. -/
def LeadsTo (lp64Linux : Bool) (h : Host) (s : Discs) (roPath hostPathname : Name) (info : ObjectInfo) : Prop :=
  (hostfsPathProcess lp64Linux h s roPath).hostPathname = hostPathname ∧
    (hostfsPathProcess lp64Linux h s roPath).info = some info ∧ (hostfsPathProcess lp64Linux h s roPath).error = none

def csdOf (s : Discs) (roPath : Name) : Name :=
  match discPath s roPath with
  | some (rootPath, _) => hostfsGetCsdForRoot s rootPath
  | none => []

/-- The leafname is not empty and has no `@`; or it ends with one, and the entry happens to be what is
selected. -/
def Findable (s : Discs) (roPath hostPathname leaf : Name) : Prop :=
  leaf ≠ [] ∧ (0x40 ∉ leaf ∨ leaf.getLast? = some 0x40 ∧ csdOf s roPath = hostPathname)

section Found

variable {lp64Linux : Bool} {h : Host} {s : Discs} {rootPath dir entry : Name} {info : ObjectInfo}

lemma readObjectInfo_entry (hslash : 0x2f ∉ entry) :
    hostfsReadObjectInfo lp64Linux h.stat (dir ++ 0x2f :: entry) =
      (objectInfo lp64Linux h (dir ++ 0x2f :: entry)).map fun info => (info, some (hostLeafToRoLeaf entry)) := by
  have hleaf : (splitLast 0x2f (dir ++ 0x2f :: entry)).map (fun p => hostLeafToRoLeaf p.2) =
      some (hostLeafToRoLeaf entry) := by
    rw [splitLast_append_cons hslash]
    rfl
  unfold objectInfo hostfsReadObjectInfo
  rw [hleaf]
  cases hostfsReadObjectInfoPlatform lp64Linux h.stat (dir ++ 0x2f :: entry) <;> rfl

lemma cacheEntry_eq {c : CacheDirectoryEntry} (hslash : 0x2f ∉ entry) :
    cacheEntry lp64Linux h dir entry = some c ↔
      dots entry = false ∧ c.name = hostLeafToRoLeaf entry ∧
        objectInfo lp64Linux h (dir ++ 0x2f :: entry) = some c.objectInfo := by
  obtain ⟨name, info⟩ := c
  rw [cacheEntry, readObjectInfo_entry hslash]
  cases dots entry with
  | true => simp
  | false =>
    cases objectInfo lp64Linux h (dir ++ 0x2f :: entry) with
    | none => simp
    | some info' => simp [eq_comm]

/-- **The scan finds an entry by the name it was listed with.** -/
lemma scan_listed {entries : List Name} (hdistinct : DistinctLeafnames h dir) (hdir : h.readdir dir = some entries)
    (hmem : entry ∈ entries) (hdots : dots entry = false)
    (hinfo : objectInfo lp64Linux h (dir ++ 0x2f :: entry) = some info) :
    hostfsPathScan lp64Linux h dir (dotted (hostLeafToRoLeaf entry)) = some (entry, info) := by
  have hchars : ∀ e ∈ entries, 0x2e ∉ hostLeafToRoLeaf e := fun e he hdot =>
    (leafname_chars (h.entry_plain hdir he) 0x2e hdot).2.1 rfl
  rw [hostfsPathScan, hdir, Option.bind_some]
  have hself : (if dots entry || asciiCasecmp (dotted (hostLeafToRoLeaf entry)) (dotted (hostLeafToRoLeaf entry)) != 0
      then none else (objectInfo lp64Linux h (dir ++ 0x2f :: entry)).map fun info => (entry, info)) =
      some (entry, info) := by
    have hsame : asciiCasecmp (dotted (hostLeafToRoLeaf entry)) (dotted (hostLeafToRoLeaf entry)) = 0 :=
      asciiCasecmp_eq_zero.mpr rfl
    rw [hdots, hsame, hinfo]
    rfl
  cases hfind : entries.findSome? fun e =>
      if dots e || asciiCasecmp (dotted (hostLeafToRoLeaf e)) (dotted (hostLeafToRoLeaf entry)) != 0 then none
      else (objectInfo lp64Linux h (dir ++ 0x2f :: e)).map fun info => (e, info) with
  | none => exact absurd (List.findSome?_eq_none_iff.mp hfind entry hmem) (by rw [hself]; simp)
  | some found =>
    obtain ⟨e, he, hfound⟩ := List.exists_of_findSome?_eq_some hfind
    obtain ⟨hother, hfound'⟩ := Option.ite_none_left_eq_some.mp hfound
    have hmatch : dots e = false ∧ asciiCasecmp (hostLeafToRoLeaf e) (hostLeafToRoLeaf entry) = 0 := by
      simp only [Bool.or_eq_true, bne_iff_ne, ne_eq, not_or, Bool.not_eq_true, not_not] at hother
      exact ⟨hother.1, (dotted_casecmp (hchars e he) (hchars entry hmem)).mp hother.2⟩
    have hsame : e = entry := by
      by_contra hne
      have hsymm : Std.Symm fun a b => asciiCasecmp (hostLeafToRoLeaf a) (hostLeafToRoLeaf b) ≠ 0 :=
        ⟨fun a b hab hba => hab (asciiCasecmp_eq_zero.mpr (asciiCasecmp_eq_zero.mp hba).symm)⟩
      have hin : ∀ e ∈ entries, dots e = false → e ∈ entries.filter fun e => !dots e := fun e he hdots =>
        List.mem_filter.mpr ⟨he, by simp [hdots]⟩
      exact (hdistinct entries hdir).forall (hin e he hmatch.1) (hin entry hmem hdots) hne hmatch.2
    subst hsame
    rw [← hfound, hself]

lemma finish_plain {w : Walk} {leaf : Name} (hpath : w.hostPathname = dir) (hcomponent : w.component = dotted leaf)
    (hne : leaf ≠ []) (hscan : hostfsPathScan lp64Linux h dir (dotted leaf) = some (entry, info)) :
    (finish lp64Linux h w).hostPathname = dir ++ 0x2f :: entry ∧ (finish lp64Linux h w).info = some info ∧
      (finish lp64Linux h w).error = none := by
  have hne' : w.component ≠ [] := by simpa [hcomponent, dotted] using hne
  have htake : takeComponent lp64Linux h w =
      .ok { hostPathname := dir ++ 0x2f :: entry, component := [], info := some info, opened := w.opened ++ [dir] } := by
    rw [takeComponent, hcomponent, hpath, hscan]
  rw [finish, if_pos hne', htake]
  exact ⟨rfl, rfl, rfl⟩

lemma walk_ok {leaf : Name} {w : Walk} (hleaf : ∀ ch ∈ leaf, ch ≠ 0x40 → isPlain ch)
    (hcsd : objectInfo lp64Linux h (hostfsGetCsdForRoot s rootPath) = some info) :
    ∃ v, leaf.foldlM (pathChar lp64Linux h s rootPath) w = .ok v := by
  induction leaf generalizing w with
  | nil => exact ⟨w, rfl⟩
  | cons ch leaf ih =>
    have ih := fun w => @ih w fun c hc => hleaf c (List.mem_cons_of_mem ch hc)
    rw [List.foldlM_cons]
    by_cases hat : ch = 0x40
    · subst hat
      have hchar : pathChar lp64Linux h s rootPath w 0x40 =
          .ok { w with hostPathname := hostfsGetCsdForRoot s rootPath, component := [], info := some info } := by
        simp only [pathChar, lookAt, hcsd]
        rfl
      rw [hchar]
      exact ih _
    · rw [pathChar_plain (hleaf ch List.mem_cons_self hat)]
      exact ih _

lemma walk_at {w : Walk} {before after : Name} (hslash : 0x2f ∉ entry)
    (hname : hostLeafToRoLeaf entry = before ++ 0x40 :: after) (hbefore : ∀ ch ∈ before, ch ≠ 0x40 → isPlain ch)
    (hafter : ∀ ch ∈ after, isPlain ch) (hinfo : objectInfo lp64Linux h (dir ++ 0x2f :: entry) = some info) :
    (∃ v, (before ++ 0x40 :: after).foldlM (pathChar lp64Linux h s rootPath) w = .ok v ∧
        (finish lp64Linux h v).hostPathname = dir ++ 0x2f :: entry ∧ (finish lp64Linux h v).info = some info) ↔
      after = [] ∧ hostfsGetCsdForRoot s rootPath = dir ++ 0x2f :: entry := by
  have hat : ∀ v : Walk, pathChar lp64Linux h s rootPath v 0x40 =
      (lookAt lp64Linux h { v with hostPathname := hostfsGetCsdForRoot s rootPath }).map
        fun w => { w with component := [] } := fun _ => rfl
  constructor
  · rintro ⟨v, hwalk, hpath, hfound⟩
    obtain ⟨u, -, hwalk⟩ := walk_append.mp hwalk
    rw [List.foldlM_cons, hat, lookAt] at hwalk
    dsimp only at hwalk
    cases hcsd : objectInfo lp64Linux h (hostfsGetCsdForRoot s rootPath) with
    | none =>
      rw [hcsd] at hwalk
      cases hwalk
    | some info' =>
      rw [hcsd] at hwalk
      replace hwalk := (walk_plain hafter).symm.trans hwalk
      obtain rfl := Except.ok.inj hwalk
      cases hnil : after with
      | nil =>
        subst hnil
        exact ⟨rfl, hpath⟩
      | cons ch after' =>
        -- what is found is no entry of that length
        have hne : dotted after ≠ [] := by simp [hnil, dotted]
        simp only [finish, List.nil_append, if_pos hne, takeComponent] at hpath hfound
        cases hscan : hostfsPathScan lp64Linux h (hostfsGetCsdForRoot s rootPath) (dotted after) with
        | none =>
          rw [hscan] at hfound
          cases hfound
        | some p =>
          rw [hscan] at hpath
          obtain ⟨entry', info''⟩ := p
          obtain ⟨hslash', -, hmatch, -⟩ := scan_some hscan
          have hsplit := congrArg (splitLast 0x2f) hpath
          rw [splitLast_append_cons hslash, splitLast_append_cons hslash'] at hsplit
          obtain ⟨-, rfl⟩ := Prod.mk.inj (Option.some.inj hsplit)
          have hlength := congrArg List.length (asciiCasecmp_eq_zero.mp hmatch)
          simp only [dotted, List.length_map, hname, List.length_append, List.length_cons] at hlength
          omega
  · rintro ⟨rfl, hcsd⟩
    have hfound : objectInfo lp64Linux h (hostfsGetCsdForRoot s rootPath) = some info := by rw [hcsd, hinfo]
    obtain ⟨u, hu⟩ := walk_ok (w := w) hbefore hfound
    refine ⟨{ u with hostPathname := hostfsGetCsdForRoot s rootPath, component := [], info := some info },
      walk_append.mpr ⟨u, hu, ?_⟩, hcsd, rfl⟩
    rw [List.foldlM_cons, hat, lookAt]
    dsimp only
    rw [hfound]
    rfl

lemma process_child {roPath : Name} {dirInfo : ObjectInfo} (hro : isRoPath roPath = true)
    (hpath : (hostfsPathProcess lp64Linux h s roPath).hostPathname = dir)
    (hinfo : (hostfsPathProcess lp64Linux h s roPath).info = some dirInfo) :
    ∃ rootPath w, csdOf s roPath = hostfsGetCsdForRoot s rootPath ∧ w.hostPathname = dir ∧ w.component = [] ∧
      ∀ leaf path info, LeadsTo lp64Linux h s (roPath ++ 0x2e :: leaf) path info ↔
        ∃ v, leaf.foldlM (pathChar lp64Linux h s rootPath) w = .ok v ∧
          (finish lp64Linux h v).hostPathname = path ∧ (finish lp64Linux h v).info = some info := by
  unfold hostfsPathProcess at hpath hinfo
  cases hdisc : discPath s roPath with
  | none =>
    rw [hdisc] at hinfo
    cases hinfo
  | some p =>
    obtain ⟨rootPath, path⟩ := p
    rw [hdisc] at hpath hinfo
    dsimp only [walkPath] at hpath hinfo
    cases hwalk : path.foldlM (pathChar lp64Linux h s rootPath) ⟨[], [], none, []⟩ with
    | error v =>
      rw [hwalk] at hinfo
      exact absurd (hinfo.symm.trans (walk_error hwalk)) (by simp)
    | ok v =>
      rw [hwalk] at hpath hinfo
      obtain ⟨w, hw, hwpath, hwcomponent, -⟩ := pathChar_dot s rootPath hinfo hpath
      refine ⟨rootPath, w, by rw [csdOf, hdisc], hwpath, hwcomponent, fun leaf child info => ?_⟩
      have hchild : hostfsPathProcess lp64Linux h s (roPath ++ 0x2e :: leaf) =
          walkPath lp64Linux h s rootPath (path ++ 0x2e :: leaf) := by
        rw [hostfsPathProcess, discPath_append hdisc hro]
      have hgoes : (path ++ 0x2e :: leaf).foldlM (pathChar lp64Linux h s rootPath) ⟨[], [], none, []⟩ =
          leaf.foldlM (pathChar lp64Linux h s rootPath) w := by
        rw [List.foldlM_append, hwalk]
        show (List.foldlM (pathChar lp64Linux h s rootPath) v (0x2e :: leaf)) = _
        rw [List.foldlM_cons, hw]
        rfl
      rw [LeadsTo, hchild, walkPath, hgoes]
      cases hleaf : leaf.foldlM (pathChar lp64Linux h s rootPath) w with
      | error u => simp [walk_error hleaf]
      | ok u =>
        have herror : (finish lp64Linux h u).error = none := by
          unfold finish
          split <;> rfl
        simp [herror]

lemma leadsTo_entry_iff {roPath : Name} {dirInfo : ObjectInfo} {entries : List Name} (hro : isRoPath roPath = true)
    (hpath : (hostfsPathProcess lp64Linux h s roPath).hostPathname = dir)
    (hdir : (hostfsPathProcess lp64Linux h s roPath).info = some dirInfo) (hdistinct : DistinctLeafnames h dir)
    (hentries : h.readdir dir = some entries) (hmem : entry ∈ entries) (hdots : dots entry = false)
    (hinfo : objectInfo lp64Linux h (dir ++ 0x2f :: entry) = some info) :
    LeadsTo lp64Linux h s (roPath ++ 0x2e :: hostLeafToRoLeaf entry) (dir ++ 0x2f :: entry) info ↔
      Findable s roPath (dir ++ 0x2f :: entry) (hostLeafToRoLeaf entry) := by
  have hslash := h.entry_plain hentries hmem
  have hchars := leafname_chars hslash
  have hplain : ∀ ch ∈ hostLeafToRoLeaf entry, ch ≠ 0x40 → isPlain ch := fun ch hch hne =>
    ⟨(hchars ch hch).1, (hchars ch hch).2.1, (hchars ch hch).2.2, hne⟩
  obtain ⟨rootPath, w, hcsd, hwpath, hwcomponent, hleads⟩ := process_child hro hpath hdir
  rw [hleads, Findable, hcsd]
  cases hsplit : splitLast 0x40 (hostLeafToRoLeaf entry) with
  | none =>
    have hat := splitLast_eq_none.mp hsplit
    rw [walk_plain fun ch hch => hplain ch hch fun heq => hat (heq ▸ hch), hwcomponent, List.nil_append]
    by_cases hne : hostLeafToRoLeaf entry = []
    · -- the path stops at the directory
      refine iff_of_false ?_ fun h => h.1 hne
      rintro ⟨v, hv, hvpath, -⟩
      obtain rfl := Except.ok.inj hv
      rw [hne] at hvpath
      have hlength := congrArg List.length (hwpath.symm.trans hvpath)
      simp at hlength
    · have hscan := scan_listed hdistinct hentries hmem hdots hinfo
      obtain ⟨hvpath, hvinfo, -⟩ :=
        finish_plain (w := { w with component := dotted (hostLeafToRoLeaf entry) }) hwpath rfl hne hscan
      exact iff_of_true ⟨_, rfl, hvpath, hvinfo⟩ ⟨hne, .inl hat⟩
  | some p =>
    obtain ⟨before, after⟩ := p
    obtain ⟨hsame, hafter⟩ := splitLast_eq_some.mp hsplit
    have hlast := getLast?_append_cons before hafter
    rw [hsame] at hplain ⊢
    rw [walk_at hslash hsame (fun ch hch => hplain ch (by simp [hch]))
      (fun ch hch => hplain ch (by simp [hch]) fun heq => hafter (heq ▸ hch)) hinfo, hlast]
    simp

end Found

/-- **A name that is listed leads back to its entry** if and only if it is findable: whatever the directory and the
path to it, what is selected, and however much is asked for. -/
theorem listed_found_iff (lp64Linux : Bool) (h : Host) (s : Discs) (roPath dir : Name) (r3 r4 r5 : UInt32)
    (withInfo withTimestamp : Bool) (reply : DirReply) (hro : isRoPath roPath = true)
    (hdir : (hostfsPathProcess lp64Linux h s roPath).hostPathname = dir) (hdistinct : DistinctLeafnames h dir)
    (hreply : hostfsReadDir lp64Linux h s roPath r3 r4 r5 withInfo withTimestamp = some reply)
    (c : CacheDirectoryEntry) (hc : c ∈ reply.entries) :
    ∃ entries entry, h.readdir dir = some entries ∧ entry ∈ entries ∧ cacheEntry lp64Linux h dir entry = some c ∧
      (LeadsTo lp64Linux h s (roPath ++ 0x2e :: c.name) (dir ++ 0x2f :: entry) c.objectInfo ↔
        Findable s roPath (dir ++ 0x2f :: entry) c.name) := by
  unfold hostfsReadDir at hreply
  dsimp only at hreply
  split at hreply
  next hinfo =>
    rw [hdir] at hreply
    obtain ⟨cache, hcache, rfl⟩ := Option.map_eq_some_iff.mp hreply
    obtain ⟨entries, hentries, rfl⟩ := Option.map_eq_some_iff.mp hcache
    have hlisted := List.mem_of_mem_drop (mem_of_returnEntries hc)
    rw [(List.perm_insertionSort _ _).mem_iff] at hlisted
    obtain ⟨entry, hmem, hentry⟩ := List.mem_filterMap.mp hlisted
    obtain ⟨hdots, hname, hobject⟩ := (cacheEntry_eq (h.entry_plain hentries hmem)).mp hentry
    refine ⟨entries, entry, hentries, hmem, hentry, ?_⟩
    rw [hname]
    exact leadsTo_entry_iff hro hdir hinfo hdistinct hentries hmem hdots hobject
  · obtain rfl := Option.some.inj hreply
    cases hc

/-! ## Two directories -/

def plainFile : Stat := ⟨.regular, ⟨0, 0, by decide⟩, 0⟩

/-- A host with one directory, `/h`, of regular files. -/
def oneDir (entries : List Name) (h : ∀ e ∈ entries, 0x2f ∉ e ∧ e.length < 4000) : Host where
  readdir dir := if dir = ext "/h" then some entries else none
  stat path :=
    if path = ext "/h" then some { plainFile with mode := .directory }
    else if path ∈ entries.map (fun e => ext "/h" ++ 0x2f :: e) then some plainFile
    else none
  entry_plain := by
    intro dir entries' e hdir he
    obtain ⟨-, hsame⟩ := Option.ite_none_right_eq_some.mp hdir
    exact (h e (Option.some.inj hsame ▸ he)).1
  stat_long := by
    intro path hlong
    rw [if_neg, if_neg]
    · intro hmem
      obtain ⟨e, he, rfl⟩ := List.mem_map.mp hmem
      have hlength := (h e he).2
      simp only [pathMax, List.length_append, List.length_cons, show (ext "/h").length = 2 from rfl] at hlong
      omega
    · rintro rfl
      exact absurd hlong (by decide)

def oneDisc : Discs := ⟨ext "/h", ext "/s", ext "/h", ext "/s"⟩

def plainInfo : ObjectInfo := ⟨.file, 0xffffff33, 0x6e996a00, 0, 3⟩

lemma distinct_singleton (entry : Name) (h : ∀ e ∈ [entry], 0x2f ∉ e ∧ e.length < 4000) (dir : Name) :
    DistinctLeafnames (oneDir [entry] h) dir := by
  intro entries hdir
  obtain ⟨-, hsame⟩ := Option.ite_none_right_eq_some.mp hdir
  obtain rfl := Option.some.inj hsame
  exact (List.pairwise_singleton _ entry).sublist List.filter_sublist

theorem listed_found_readme :
    LeadsTo true (oneDir [ext "readme"] (by decide)) oneDisc (ext "$" ++ 0x2e :: ext "readme") (ext "/h/readme")
      plainInfo := by
  obtain ⟨entries, entry, hentries, hmem, -, hiff⟩ :=
    listed_found_iff true (oneDir [ext "readme"] (by decide)) oneDisc (ext "$") (ext "/h") 10 0 1000 false false
      ⟨[⟨ext "readme", plainInfo⟩], 1, 1⟩ rfl rfl (distinct_singleton _ _ _) rfl ⟨ext "readme", plainInfo⟩
      (List.mem_singleton.mpr rfl)
  obtain rfl := Option.some.inj hentries
  obtain rfl := List.mem_singleton.mp hmem
  exact hiff.mpr ⟨by decide, .inl (by decide)⟩

theorem listed_not_found :
    (DistinctLeafnames (oneDir [ext "a@b"] (by decide)) (ext "/h") ∧
      ∃ reply, hostfsReadDir true (oneDir [ext "a@b"] (by decide)) oneDisc (ext "$") 10 0 1000 false false = some reply ∧
        reply.entries = [⟨ext "a@b", plainInfo⟩] ∧
        ¬LeadsTo true (oneDir [ext "a@b"] (by decide)) oneDisc (ext "$" ++ 0x2e :: ext "a@b") (ext "/h/a@b")
          plainInfo) ∧
    (DistinctLeafnames (oneDir [ext ",fff"] (by decide)) (ext "/h") ∧
      ∃ reply, hostfsReadDir true (oneDir [ext ",fff"] (by decide)) oneDisc (ext "$") 10 0 1000 false false = some reply ∧
        reply.entries = [⟨[], plainInfo⟩] ∧
        ¬LeadsTo true (oneDir [ext ",fff"] (by decide)) oneDisc (ext "$" ++ 0x2e :: []) (ext "/h/,fff") plainInfo) := by
  refine ⟨⟨distinct_singleton _ _ _, _, rfl, rfl, ?_⟩, ⟨distinct_singleton _ _ _, _, rfl, rfl, ?_⟩⟩
  · rintro ⟨-, hinfo, -⟩
    have hnone : (hostfsPathProcess true (oneDir [ext "a@b"] (by decide)) oneDisc (ext "$" ++ 0x2e :: ext "a@b")).info =
        none := rfl
    rw [hnone] at hinfo
    cases hinfo
  · rintro ⟨hpath, -⟩
    exact absurd hpath (by decide)

end RpcEmu.Hostfs
