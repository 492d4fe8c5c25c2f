import RpcEmu.Snapshot.Header

/-!
# Resuming from a truncated snapshot

`state_save` and `state_load` of `savestate.c`: a header, and then tagged chunks to the end of the
file.  What the chunks hold is the business of some twenty other files; here each is a function that
saves and a program that loads, of which it is only used that a loader reads the file from where it
is and never seeks.

* **The end of the file is how a snapshot ends**, and nothing in the file says how many chunks there
  are.  So a file cut between two chunks, or within a tag, is a snapshot with fewer chunks:
  `state_load` succeeds, and what the lost chunks held stays as reset left it.
* A file cut in the header is refused before the machine is reset, so it is left as it was.
-/

namespace RpcEmu.Snapshot

open Effects Streams

inductive ChunkTag
  | arm
  | cp15
  | fpa
  | mem
  | iomd
  | vidc
  | gfx
  | sio
  | i8042
  | kbd
  | ide
  | ics
  | flpy
  | fdc
  | disc
  | adf
  | hfe
  | cmos
  | snd
  | exec
  | hfs
  | net
  deriving DecidableEq, Repr

def ChunkTag.tag : ChunkTag → List UInt8
  | arm => [65, 82, 77, 32]
  | cp15 => [67, 80, 49, 53]
  | fpa => [70, 80, 65, 32]
  | mem => [77, 69, 77, 32]
  | iomd => [73, 79, 77, 68]
  | vidc => [86, 73, 68, 67]
  | gfx => [71, 70, 88, 32]
  | sio => [83, 73, 79, 32]
  | i8042 => [56, 48, 52, 50]
  | kbd => [75, 66, 68, 32]
  | ide => [73, 68, 69, 32]
  | ics => [73, 67, 83, 32]
  | flpy => [70, 76, 80, 89]
  | fdc => [70, 68, 67, 32]
  | disc => [68, 73, 83, 67]
  | adf => [65, 68, 70, 32]
  | hfe => [72, 70, 69, 32]
  | cmos => [67, 77, 79, 83]
  | snd => [83, 78, 68, 32]
  | exec => [69, 88, 69, 67]
  | hfs => [72, 70, 83, 32]
  | net => [78, 69, 84, 32]

/-- `snapshot_chunks`, in a build with networking or without. -/
def snapshotChunks (networking : Bool) : List ChunkTag :=
  ([.arm, .cp15, .fpa, .mem, .iomd, .vidc, .gfx, .sio, .i8042, .kbd, .ide, .ics, .flpy, .fdc, .disc,
    .adf, .hfe, .cmos, .snd, .exec, .hfs] : List ChunkTag) ++ if networking then [.net] else []

/-- A machine whose state is an `M`: how it is reset, what is rebuilt once it is restored, and its
chunks.  A loader is given the version of the snapshot; it only moves through the file by reading it,
and no chunk reaches four gigabytes. -/
structure Machine (M : Type) where
  resetrpc : M → M
  rebuild : M → M
  save : ChunkTag → M → List UInt8
  load : ChunkTag → UInt32 → M → Read M
  save_lt : ∀ c m, (save c m).length < 2 ^ 32
  load_noSkip : ∀ c version m, NoSkip (load c version m)

variable {M : Type} (mc : Machine M) (networking : Bool)

def chunkBytes (c : ChunkTag) (payload : List UInt8) : List UInt8 :=
  c.tag ++ (u32Bytes (.ofNat payload.length) ++ payload)

/-- The file that `state_save` leaves. -/
def stateSave (config : Config) (m : M) : List UInt8 :=
  writeHeader config ++ (snapshotChunks networking).flatMap fun c => chunkBytes c (mc.save c m)

/-- The loop of `state_load`, over a file opened at a chunk.  Every turn takes a tag and a length off
the file, so its size bounds them. -/
def loadChunks (version : UInt32) : Nat → Stream → M → M × Stream
  | 0, f, m => (m, f)
  | turns + 1, f, m =>
    if f.ahead.length < 4 then (m, f)
    else
      let tag := f.ahead.take 4
      let (len, f) := readU32.run handler (f.move 4)
      let payloadStart := f.pos
      if f.error then (m, f)
      else
        match (snapshotChunks networking).find? fun c => c.tag = tag with
        | some c =>
          let (m, f) := (mc.load c version m).run handler f
          if f.error then (m, f)
          else if f.pos ≠ payloadStart + len.toNat then (m, { f with error := true })
          else loadChunks version turns { f with pos := payloadStart + len.toNat } m
        | none => loadChunks version turns { f with pos := payloadStart + len.toNat } m

def stateLoad (config : Config) (file : Option (List UInt8)) (m : M) : Bool × M :=
  match file with
  | none => (false, m)
  | some data =>
    match (checkHeader config).run handler (Stream.opened data) with
    | (.error _, _) => (false, m)
    | (.ok version, f) =>
      let (m, f) := loadChunks mc networking version (data.length + 1) f (mc.resetrpc m)
      if f.error then (false, mc.resetrpc m) else (true, mc.rebuild m)

/-! ## A chunk on its own -/

def chunkLoads (c : ChunkTag) (version : UInt32) (payload : List UInt8) (m : M) : Option M :=
  let (m', f) := (mc.load c version m).run handler (Stream.opened payload)
  if f.error = false ∧ f.pos = payload.length then some m' else none

def chunksLoad (version : UInt32) : List (ChunkTag × List UInt8) → M → Option M
  | [], m => some m
  | (c, payload) :: rest, m => (chunkLoads mc c version payload m).bind (chunksLoad version rest)

def recordSize (r : ChunkTag × List UInt8) : Nat := 8 + r.2.length

def wholeChunks : List (ChunkTag × List UInt8) → Nat → List (ChunkTag × List UInt8) × Nat
  | [], cut => ([], cut)
  | r :: rest, cut =>
    if cut < recordSize r then ([], cut)
    else (r :: (wholeChunks rest (cut - recordSize r)).1, (wholeChunks rest (cut - recordSize r)).2)

def recordsBytes (records : List (ChunkTag × List UInt8)) : List UInt8 :=
  records.flatMap fun r => chunkBytes r.1 r.2

lemma length_tag (c : ChunkTag) : c.tag.length = 4 := by
  cases c <;> rfl

lemma length_chunkBytes (r : ChunkTag × List UInt8) :
    (chunkBytes r.1 r.2).length = recordSize r := by
  simp [chunkBytes, length_tag, u32Bytes, recordSize]
  omega

lemma find_tag {c : ChunkTag} (h : c ∈ snapshotChunks networking) :
    ((snapshotChunks networking).find? fun d => d.tag = c.tag) = some c := by
  revert h
  cases networking <;> cases c <;> decide

variable {mc}

/-- **A loader on a chunk in a file** does what it does on the chunk alone, or does not end where the
chunk does. -/
lemma load_in_file (c : ChunkTag) (version : UInt32) {payload post : List UInt8} (m : M)
    {f : Stream} (he : f.error = false) (hf : f.pos ≤ f.data.length)
    (h : f.ahead = payload ++ post) :
    (∃ m', chunkLoads mc c version payload m = some m' ∧
        (mc.load c version m).run handler f = (m', f.move payload.length)) ∨
      (chunkLoads mc c version payload m = none ∧
        (((mc.load c version m).run handler f).2.error = true ∨
          ((mc.load c version m).run handler f).2.pos ≠ f.pos + payload.length)) := by
  have hlen : (f.data.take f.pos).length = f.pos := by
    rw [List.length_take]
    omega
  have hin : Inside (f.data.take f.pos) payload post (Stream.opened payload) f := by
    refine ⟨rfl, ?_, ?_, rfl, he⟩
    · rw [← h, Stream.ahead, List.take_append_drop]
    · rw [hlen]
      rfl
  rw [chunkLoads]
  rcases run_local (mc.load c version m) _ _ hin with ⟨hv, hin'⟩ | ⟨herr, hlost⟩
  · by_cases hp : ((mc.load c version m).run handler (Stream.opened payload)).2.pos = payload.length
    · refine .inl ⟨_, if_pos ⟨hin'.clean, hp⟩, ?_⟩
      have hdata := run_data (mc.load c version m) f
      have hpos := hin'.pos
      have hclean := hin'.clean'
      rw [hlen, hp] at hpos
      rw [hv]
      generalize (mc.load c version m).run handler f = out at hdata hpos hclean
      obtain ⟨m', data, pos, error⟩ := out
      obtain ⟨d, p, e⟩ := f
      cases hdata
      cases hpos
      cases hclean
      cases he
      rfl
    · refine .inr ⟨if_neg fun hc => hp hc.2, .inr ?_⟩
      rw [hin'.pos, hlen]
      omega
  · refine .inr ⟨if_neg fun hc => ?_, ?_⟩
    · rw [hc.1] at herr
      cases herr
    · rcases hlost with hl | hl
      · exact .inl hl
      · right
        rw [hlen] at hl
        omega

/-! ## The loop on a cut file -/

lemma loadChunks_chunk {version : UInt32} {turns : Nat} {f : Stream} {m : M} {c : ChunkTag}
    {payload rest : List UInt8} (hc : c ∈ snapshotChunks networking) (he : f.error = false)
    (hlen : payload.length < 2 ^ 32)
    (h : f.ahead = c.tag ++ (u32Bytes (.ofNat payload.length) ++ rest)) :
    loadChunks mc networking version (turns + 1) f m =
      (let (m', f') := (mc.load c version m).run handler (f.move 8)
       if f'.error then (m', f')
       else if f'.pos ≠ f.pos + 8 + payload.length then (m', { f' with error := true })
       else loadChunks mc networking version turns { f' with pos := f.pos + 8 + payload.length } m')
        := by
  have htag : f.ahead.take 4 = c.tag := by
    rw [h, ← length_tag c, List.take_left]
  have hlong : ¬ f.ahead.length < 4 := by
    rw [h, List.length_append, length_tag]
    omega
  have hmove : (f.move 4).ahead = u32Bytes (.ofNat payload.length) ++ rest := by
    rw [← length_tag c]
    exact ahead_move h
  have hread := Reads.u32 (.ofNat payload.length) (f.move 4) rest he hmove
  have hval : (UInt32.ofNat payload.length).toNat = payload.length := by
    rw [UInt32.toNat_ofNat']
    exact Nat.mod_eq_of_lt hlen
  rw [loadChunks, if_neg hlong, htag]
  simp only [hread, find_tag networking hc]
  have hclean : ((f.move 4).move (u32Bytes (.ofNat payload.length)).length).error = false := he
  rw [hclean, hval]
  rfl

section Cut

variable {version : UInt32} {turns : Nat} {f : Stream} {m : M} {r : ChunkTag × List UInt8} {cut : Nat}

lemma length_data (hpos : f.pos ≤ f.data.length) : f.data.length = f.pos + f.ahead.length := by
  rw [Stream.ahead, List.length_drop]
  omega

lemma loadChunks_cut_tag (h : f.ahead.length < 4) :
    loadChunks mc networking version (turns + 1) f m = (m, f) := by
  rw [loadChunks, if_pos h]

lemma loadChunks_cut_length (he : f.error = false) (h : f.ahead = (chunkBytes r.1 r.2).take cut)
    (h4 : 4 ≤ cut) (h8 : cut < 8) :
    (loadChunks mc networking version (turns + 1) f m).2.error = true := by
  have hsplit : f.ahead = r.1.tag ++ (u32Bytes (.ofNat r.2.length)).take (cut - 4) := by
    rw [h, chunkBytes, List.take_append, length_tag, List.take_append,
      List.take_of_length_le (by rw [length_tag]; exact h4)]
    simp [u32Bytes, show cut - 4 - 4 = 0 by omega]
  have hlong : ¬ f.ahead.length < 4 := by
    rw [hsplit, List.length_append, length_tag]
    omega
  have hmove : (f.move 4).ahead = (u32Bytes (.ofNat r.2.length)).take (cut - 4) := by
    have hm := ahead_move hsplit
    rwa [length_tag] at hm
  have hread : (readU32.run handler (f.move 4)).2.error = true :=
    Needs.u32 _ (f.move 4) (cut - 4) he hmove (by show cut - 4 < 4; omega)
  rw [loadChunks, if_neg hlong]
  simp only [hread, if_true]

lemma loadChunks_cut_payload (hc : r.1 ∈ snapshotChunks networking) (hlen : r.2.length < 2 ^ 32)
    (he : f.error = false) (hpos : f.pos ≤ f.data.length)
    (h : f.ahead = (chunkBytes r.1 r.2).take cut) (h8 : 8 ≤ cut) (hcut : cut < recordSize r) :
    (loadChunks mc networking version (turns + 1) f m).2.error = true := by
  have hsplit : f.ahead = r.1.tag ++ (u32Bytes (.ofNat r.2.length) ++ r.2.take (cut - 8)) := by
    rw [h, chunkBytes, List.take_append, length_tag, List.take_append,
      List.take_of_length_le (by rw [length_tag]; omega),
      List.take_of_length_le (by show 4 ≤ cut - 4; omega)]
    simp [u32Bytes, Nat.sub_sub]
  have hahead : f.ahead.length = cut := by
    rw [h, List.length_take, length_chunkBytes]
    omega
  have hdata := length_data hpos
  have hin := run_inside (mc.load r.1 version m) (f.move 8) (mc.load_noSkip _ _ _)
    (by show f.pos + 8 ≤ f.data.length; omega)
  rw [loadChunks_chunk networking hc he hlen hsplit]
  simp only []
  split_ifs with herr hp
  · exact herr
  · rfl
  · rw [recordSize] at hcut
    have hend : ((mc.load r.1 version m).run handler (f.move 8)).2.pos ≤ f.data.length := hin
    omega

/-- **The loop on a cut file** ends in an error exactly when the cut is past the tag of a chunk, or a
chunk before it does not load. -/
lemma loadChunks_cut (mc : Machine M) (version : UInt32) (records : List (ChunkTag × List UInt8))
    (hrec : ∀ r ∈ records, r.1 ∈ snapshotChunks networking ∧ r.2.length < 2 ^ 32) :
    ∀ (cut turns : Nat) (f : Stream) (m : M), f.error = false → f.pos ≤ f.data.length →
      f.ahead = (recordsBytes records).take cut → cut < (recordsBytes records).length →
      f.ahead.length < turns →
      ((loadChunks mc networking version turns f m).2.error = true ↔
        4 ≤ (wholeChunks records cut).2 ∨
          chunksLoad mc version (wholeChunks records cut).1 m = none) := by
  induction records with
  | nil => exact fun cut _ _ _ _ _ _ hcut => absurd hcut (Nat.not_lt_zero cut)
  | cons r rest ih =>
    intro cut turns f m he hpos h hcut hturns
    obtain ⟨turns, rfl⟩ : ∃ t, turns = t + 1 := ⟨turns - 1, by omega⟩
    have hbytes : recordsBytes (r :: rest) = chunkBytes r.1 r.2 ++ recordsBytes rest := rfl
    obtain ⟨hc, hlen⟩ := hrec r (by simp)
    rw [wholeChunks]
    by_cases hin : cut < recordSize r
    · -- the cut is in this chunk
      have hah : f.ahead = (chunkBytes r.1 r.2).take cut := by
        rw [h, hbytes, List.take_append_of_le_length (by rw [length_chunkBytes]; exact hin.le)]
      have hlah : f.ahead.length = cut := by
        rw [hah, List.length_take, length_chunkBytes]
        omega
      rw [if_pos hin]
      have hnone : ¬ chunksLoad mc version [] m = none := by simp [chunksLoad]
      simp only [hnone, or_false]
      rcases Nat.lt_or_ge cut 4 with h4 | h4
      · rw [loadChunks_cut_tag networking (by rw [hlah]; exact h4), he]
        simp only [Bool.false_eq_true, false_iff]
        omega
      · refine iff_of_true ?_ h4
        rcases Nat.lt_or_ge cut 8 with h8 | h8
        · exact loadChunks_cut_length networking he hah h4 h8
        · exact loadChunks_cut_payload networking hc hlen he hpos hah h8 hin
    · -- this chunk is whole
      have hah : f.ahead = r.1.tag ++ (u32Bytes (.ofNat r.2.length) ++
          (r.2 ++ (recordsBytes rest).take (cut - recordSize r))) := by
        rw [h, hbytes, List.take_append, length_chunkBytes,
          List.take_of_length_le (by rw [length_chunkBytes]; omega), chunkBytes]
        simp only [List.append_assoc]
      have hlah : f.ahead.length =
          recordSize r + ((recordsBytes rest).take (cut - recordSize r)).length := by
        rw [hah]
        simp only [List.length_append, length_tag, recordSize, u32Bytes, List.length_cons,
          List.length_nil]
        omega
      have hmove : (f.move 8).ahead = r.2 ++ (recordsBytes rest).take (cut - recordSize r) := by
        have h8 : f.ahead = (r.1.tag ++ u32Bytes (.ofNat r.2.length)) ++
            (r.2 ++ (recordsBytes rest).take (cut - recordSize r)) := by
          rw [hah, List.append_assoc]
        have hl8 : (r.1.tag ++ u32Bytes (.ofNat r.2.length)).length = 8 := by
          rw [List.length_append, length_tag]
          rfl
        rw [← hl8]
        exact ahead_move h8
      have hdata := length_data hpos
      have hsize : recordSize r = 8 + r.2.length := rfl
      have hpos8 : (f.move 8).pos ≤ (f.move 8).data.length := by
        show f.pos + 8 ≤ f.data.length
        omega
      rw [if_neg hin, chunksLoad, loadChunks_chunk networking hc he hlen hah]
      have he8 : (f.move 8).error = false := he
      rcases load_in_file r.1 version m he8 hpos8 hmove with ⟨m', hload, hrun⟩ | ⟨hload, hbad⟩
      · rw [hload, hrun]
        have hclean : ((f.move 8).move r.2.length).error = false := he
        have hend : ((f.move 8).move r.2.length).pos = f.pos + 8 + r.2.length := rfl
        simp only [hclean, hend, Bool.false_eq_true, if_false, ne_eq, not_true_eq_false]
        have hnext : ((f.move 8).move r.2.length).ahead =
            (recordsBytes rest).take (cut - recordSize r) := ahead_move hmove
        refine ih (fun r hr => hrec r (by simp [hr])) (cut - recordSize r) turns _ m' rfl ?_ hnext
          ?_ ?_
        · show f.pos + 8 + r.2.length ≤ f.data.length
          omega
        · rw [hbytes, List.length_append, length_chunkBytes] at hcut
          omega
        · show ((f.move 8).move r.2.length).ahead.length < turns
          rw [hnext]
          omega
      · rw [hload]
        refine iff_of_true ?_ (.inr rfl)
        simp only []
        split_ifs with herr hp
        · exact herr
        · rfl
        · rcases hbad with hb | hb
          · exact absurd hb herr
          · exact absurd (not_not.1 hp) hb

end Cut

/-! ## What becomes of a truncated snapshot -/

variable (mc)

def savedChunks (w : M) : List (ChunkTag × List UInt8) :=
  (snapshotChunks networking).map fun c => (c, mc.save c w)

/-- The cut leaves the header, and it is accepted. -/
def HeaderAccepted (ours theirs : Config) (cut : Nat) : Prop :=
  (writeHeader theirs).length ≤ cut ∧
    checkFields ours snapshotVersion theirs.header = .ok snapshotVersion

/-- **Not resumed**: the load fails, and the machine is as `resetrpc` leaves it. -/
def NotResumed (out : Bool × M) : Prop := out.1 = false ∧ ∃ m, out.2 = mc.resetrpc m

/-- The cut snapshot is refused. -/
def ResistsCut (ours theirs : Config) (w m : M) (cut : Nat) : Prop :=
  (¬ HeaderAccepted ours theirs cut ∧ ∃ m', m = mc.resetrpc m') ∨
    (HeaderAccepted ours theirs cut ∧
      (4 ≤ (wholeChunks (savedChunks mc networking w) (cut - (writeHeader theirs).length)).2 ∨
        chunksLoad mc snapshotVersion
          (wholeChunks (savedChunks mc networking w) (cut - (writeHeader theirs).length)).1
          (mc.resetrpc m) = none))

variable {mc}

lemma stateSave_eq (config : Config) (w : M) :
    stateSave mc networking config w =
      writeHeader config ++ recordsBytes (savedChunks mc networking w) := by
  rw [stateSave, recordsBytes, savedChunks, List.flatMap_map]

variable {ours theirs : Config} {w m : M} {cut : Nat}

lemma stateLoad_refused (h : ¬ HeaderAccepted ours theirs cut) :
    stateLoad mc networking ours (some ((stateSave mc networking theirs w).take cut)) m =
      (false, m) := by
  have hrun : ∀ v f', (checkHeader ours).run handler
      (Stream.opened ((stateSave mc networking theirs w).take cut)) ≠ (.ok v, f') := by
    intro v f' hok
    rw [stateSave_eq] at hok
    rcases Nat.lt_or_ge cut (writeHeader theirs).length with hlt | hge
    · have hah : (Stream.opened ((writeHeader theirs ++
          recordsBytes (savedChunks mc networking w)).take cut)).ahead =
          (writeHeader theirs).take cut := by
        show List.take cut _ = _
        rw [List.take_append_of_le_length hlt.le]
      have herr := checkHeader_needs ours theirs _ cut rfl hah hlt
      rw [hok, checkHeader_clean hok] at herr
      cases herr
    · have hah : (Stream.opened ((writeHeader theirs ++
          recordsBytes (savedChunks mc networking w)).take cut)).ahead =
          writeHeader theirs ++ (recordsBytes (savedChunks mc networking w)).take
            (cut - (writeHeader theirs).length) := by
        show List.take cut _ = _
        rw [List.take_append, List.take_of_length_le hge]
      rw [checkHeader_reads ours theirs _ _ rfl hah] at hok
      have hv := (Prod.mk.inj hok).1
      have hversion : v = snapshotVersion := checkFields_version hv
      rw [hversion] at hv
      exact h ⟨hge, hv⟩
  rw [stateLoad]
  generalize (checkHeader ours).run handler
    (Stream.opened ((stateSave mc networking theirs w).take cut)) = out at hrun
  obtain ⟨res, f⟩ := out
  cases res with
  | error e => rfl
  | ok v => exact absurd rfl (hrun v f)

lemma stateLoad_accepted (mc : Machine M) (w m : M) (h : HeaderAccepted ours theirs cut) :
    ∃ (f : Stream) (turns : Nat),
      f.error = false ∧ f.pos ≤ f.data.length ∧
      f.ahead = (recordsBytes (savedChunks mc networking w)).take
        (cut - (writeHeader theirs).length) ∧ f.ahead.length < turns ∧
      stateLoad mc networking ours (some ((stateSave mc networking theirs w).take cut)) m =
        (let (m', f') := loadChunks mc networking snapshotVersion turns f (mc.resetrpc m)
         if f'.error then (false, mc.resetrpc m') else (true, mc.rebuild m')) := by
  obtain ⟨hge, hfit⟩ := h
  have hah : (Stream.opened ((stateSave mc networking theirs w).take cut)).ahead =
      writeHeader theirs ++ (recordsBytes (savedChunks mc networking w)).take
        (cut - (writeHeader theirs).length) := by
    show List.take cut _ = _
    rw [stateSave_eq, List.take_append, List.take_of_length_le hge]
  have hrun := checkHeader_reads ours theirs _ _ rfl hah
  rw [hfit] at hrun
  have hlen : ((stateSave mc networking theirs w).take cut).length =
      (writeHeader theirs).length + ((recordsBytes (savedChunks mc networking w)).take
        (cut - (writeHeader theirs).length)).length := by
    rw [← List.length_append, ← hah]
    rfl
  refine ⟨_, ((stateSave mc networking theirs w).take cut).length + 1, rfl, ?_, ahead_move hah, ?_, ?_⟩
  · show 0 + (writeHeader theirs).length ≤ ((stateSave mc networking theirs w).take cut).length
    omega
  · rw [ahead_move hah]
    omega
  · rw [stateLoad, hrun]

/-- **Where a truncated snapshot is not resumed.**  If the header is refused, where the machine was
at reset already; and if it is accepted, where the cut is past the tag of a chunk or some chunk before
it does not load. -/
theorem notResumed_iff (mc : Machine M) (networking : Bool) (ours theirs : Config) (w m : M)
    (cut : Nat) (hcut : cut < (stateSave mc networking theirs w).length) :
    NotResumed mc
        (stateLoad mc networking ours (some ((stateSave mc networking theirs w).take cut)) m) ↔
      ResistsCut mc networking ours theirs w m cut := by
  by_cases hh : HeaderAccepted ours theirs cut
  · obtain ⟨f, turns, he, hpos, hah, hturns, hload⟩ := stateLoad_accepted networking mc w m hh
    have hrec : ∀ r ∈ savedChunks mc networking w,
        r.1 ∈ snapshotChunks networking ∧ r.2.length < 2 ^ 32 := by
      intro r hr
      obtain ⟨c, hc, rfl⟩ := List.mem_map.1 hr
      exact ⟨hc, mc.save_lt c w⟩
    have hlt : cut - (writeHeader theirs).length <
        (recordsBytes (savedChunks mc networking w)).length := by
      rw [stateSave_eq, List.length_append] at hcut
      have := hh.1
      omega
    have hloop := loadChunks_cut networking mc snapshotVersion (savedChunks mc networking w) hrec _ turns f
      (mc.resetrpc m) he hpos hah hlt hturns
    have hiff : ResistsCut mc networking ours theirs w m cut ↔
        (loadChunks mc networking snapshotVersion turns f (mc.resetrpc m)).2.error = true := by
      rw [hloop, ResistsCut]
      simp only [hh, not_true_eq_false, false_and, true_and, false_or]
    rw [hiff, hload]
    simp only []
    split_ifs with herr
    · exact iff_of_true ⟨rfl, _, rfl⟩ herr
    · refine iff_of_false ?_ herr
      rintro ⟨hfalse, -⟩
      cases hfalse
  · rw [stateLoad_refused networking hh, NotResumed, ResistsCut]
    simp only [hh, not_false_eq_true, true_and, false_and, or_false]

def byteMachine : Machine (ChunkTag → UInt8) where
  resetrpc _ := fun _ => 0
  rebuild m := m
  save c m := [m c]
  load c _ m := do
    let b ← bytes 1
    pure (Function.update m c (b.getD 0 0))
  save_lt c m := by
    show 1 < 2 ^ 32
    decide
  load_noSkip _ _ _ := fun _ => trivial

theorem notResumed_cut_length :
    NotResumed byteMachine (stateLoad byteMachine false namedMachine
      (some ((stateSave byteMachine false namedMachine fun _ => 1).take
        ((writeHeader namedMachine).length + 14))) fun _ => 7) :=
  (notResumed_iff byteMachine false namedMachine namedMachine (fun _ => 1) (fun _ => 7)
    ((writeHeader namedMachine).length + 14) (by decide +kernel)).2
    (.inr ⟨⟨by decide, by decide⟩, .inl (by decide)⟩)

theorem cut_between_chunks_resumes :
    ¬ NotResumed byteMachine (stateLoad byteMachine false namedMachine
      (some ((stateSave byteMachine false namedMachine fun _ => 1).take
        ((writeHeader namedMachine).length + 9))) fun _ => 7) := by
  rintro ⟨h, -⟩
  revert h
  decide +kernel

end RpcEmu.Snapshot
