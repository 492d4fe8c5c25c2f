import RpcEmu.Lib.Stream
import RpcEmu.Lib.Masks
import RpcEmu.Lib.Overlay
import Mathlib.Data.List.TakeDrop

/-!
# The run-length codec of a snapshot

`savestate_write_rle` and `savestate_read_rle`, which carry RAM, VRAM and the disc buffers.

* **`Record`** is what the format is made of, literal bytes or a run of one byte, each after a word whose
  high bit tells which it is.  The writer's loop leaves such records, `written_records`, and what they
  stand for is the data.
* **The reader** is followed by what it stores: `Store` is one `memset` or `fread` into the memory it
  is given.  It reads the records of a text back, `reads_records`.
* **Any file.**  The reader's stores follow one another from the start, and stop short of the end of the
  memory only with the error latched.
-/

namespace RpcEmu.Snapshot

open Effects Masks Streams

/-- `RLE_MIN_RUN`. -/
def rleMinRun : Nat := 16

/-! ## Writing -/

/-- The inner loop of `savestate_write_rle`: how far the run at `i` goes, from `run` on. -/
def growRun (p : List UInt8) (i run : Nat) : Nat :=
  if i + run < p.length ∧ p[i + run]? = p[i]? ∧ run < 0x7fffffff then growRun p i (run + 1) else run
termination_by p.length - (i + run)

def literalText (bytes : List UInt8) : List UInt8 := u32Bytes (.ofNat bytes.length) ++ bytes

def runText (n : Nat) (b : UInt8) : List UInt8 := u32Bytes (.ofNat n ||| 0x80000000) ++ [b]

/-- What is flushed of `p`, from `lit_start` to `i`. -/
def flushLiterals (p : List UInt8) (litStart i : Nat) : List UInt8 :=
  if litStart < i then literalText ((p.drop litStart).take (i - litStart)) else []

lemma le_growRun (p : List UInt8) (i run : Nat) : run ≤ growRun p i run := by
  fun_induction growRun p i run with
  | case1 run _ ih => omega
  | case2 run _ => exact Nat.le_refl run

/-- The loop of `savestate_write_rle`, and the flush after it. -/
def writeRecords (p : List UInt8) (i litStart : Nat) : List UInt8 :=
  if i < p.length then
    let run := growRun p i 1
    if rleMinRun ≤ run then
      flushLiterals p litStart i ++ runText run (p.getD i 0) ++ writeRecords p (i + run) (i + run)
    else writeRecords p (i + run) litStart
  else flushLiterals p litStart p.length
termination_by p.length - i
decreasing_by
  all_goals
    have := le_growRun p i 1
    omega

/-- `savestate_write_rle`. -/
def savestateWriteRle (p : List UInt8) : List UInt8 := u32Bytes (.ofNat p.length) ++ writeRecords p 0 0

/-! ## Reading -/

structure Store where
  offset : Nat
  bytes : List UInt8
  deriving DecidableEq, Repr

def Store.patch (s : Store) : Overlay.Patch Nat UInt8 :=
  fun x => if s.offset ≤ x then s.bytes[x - s.offset]? else none

/-- `savestate_error = 1`. -/
def latch : Read Unit := Prog.perform ReadOp.fail

/-- The payload of a record: `count` copies of a byte, or `count` bytes. -/
def readPayload (c : UInt32) : Read (List UInt8) :=
  if c &&& 0x80000000 ≠ 0 then do
    let b ← readU8
    pure (List.replicate (c &&& 0x7fffffff).toNat b)
  else bytes (c &&& 0x7fffffff).toNat

/-- The loop of `savestate_read_rle`, from `pos` on. -/
def readRecords (len pos : Nat) : Read (List Store) :=
  if _hpos : pos < len then do
    if ← failed then pure []
    else
      let c ← readU32
      if _hn : (c &&& 0x7fffffff).toNat = 0 ∨ len - pos < (c &&& 0x7fffffff).toNat then do
        latch
        pure []
      else
        let payload ← readPayload c
        let rest ← readRecords len (pos + (c &&& 0x7fffffff).toNat)
        pure (⟨pos, payload⟩ :: rest)
  else pure []
termination_by len - pos
decreasing_by omega

/-- `savestate_read_rle`, by what it stores. -/
def savestateReadRle (len : Nat) : Read (List Store) := do
  let length ← readU32
  if length ≠ .ofNat len then do
    latch
    pure []
  else readRecords len 0

/-! ## The format -/

inductive Record
  | literal (bytes : List UInt8)
  | repeated (n : Nat) (b : UInt8)

namespace Record

def text : Record → List UInt8
  | literal bytes => literalText bytes
  | repeated n b => runText n b

def expand : Record → List UInt8
  | literal bytes => bytes
  | repeated n b => List.replicate n b

/-- A record whose length an `int` holds. -/
def Fits (r : Record) : Prop := 0 < r.expand.length ∧ r.expand.length < 2 ^ 31

end Record

def textOf (rs : List Record) : List UInt8 := rs.flatMap Record.text

def expandAll (rs : List Record) : List UInt8 := rs.flatMap Record.expand

@[simp] lemma textOf_cons (r : Record) (rs : List Record) : textOf (r :: rs) = r.text ++ textOf rs := rfl

@[simp] lemma expandAll_cons (r : Record) (rs : List Record) :
    expandAll (r :: rs) = r.expand ++ expandAll rs := rfl

lemma textOf_append (rs ss : List Record) : textOf (rs ++ ss) = textOf rs ++ textOf ss :=
  List.flatMap_append

lemma expandAll_append (rs ss : List Record) : expandAll (rs ++ ss) = expandAll rs ++ expandAll ss :=
  List.flatMap_append

/-! ## What the writer leaves -/

lemma growRun_le {p : List UInt8} {i run : Nat} (h : run ≤ 0x7fffffff) : growRun p i run ≤ 0x7fffffff := by
  fun_induction growRun p i run with
  | case1 run hrun ih => exact ih hrun.2.2
  | case2 run _ => exact h

lemma add_growRun_le {p : List UInt8} {i run : Nat} (h : i + run ≤ p.length) :
    i + growRun p i run ≤ p.length := by
  fun_induction growRun p i run with
  | case1 run hrun ih => exact ih hrun.1
  | case2 run _ => exact h

lemma run_same {p : List UInt8} {i run : Nat} {b : UInt8} (hb : p[i]? = some b)
    (h : (p.drop i).take run = List.replicate run b) :
    (p.drop i).take (growRun p i run) = List.replicate (growRun p i run) b := by
  fun_induction growRun p i run with
  | case1 run hrun ih =>
    apply ih
    have hnext : (p.drop i)[run]? = some b := by
      rw [List.getElem?_drop, hrun.2.1, hb]
    rw [List.take_add_one, h, hnext, Option.toList_some, List.replicate_succ']
  | case2 run _ => exact h

lemma first_same {p : List UInt8} {i : Nat} {b : UInt8} (hb : p[i]? = some b) :
    (p.drop i).take (growRun p i 1) = List.replicate (growRun p i 1) b := by
  refine run_same hb ?_
  have hfirst : (p.drop i)[0]? = some b := by rw [List.getElem?_drop, Nat.add_zero, hb]
  rw [List.take_add_one, hfirst]
  rfl

lemma flushed_records {p : List UInt8} (litStart : Nat) {i : Nat} (hp : p.length < 2 ^ 31) (hi : i ≤ p.length) :
    ∃ rs : List Record, (∀ r ∈ rs, r.Fits) ∧ textOf rs = flushLiterals p litStart i ∧
      expandAll rs = (p.drop litStart).take (i - litStart) := by
  rw [flushLiterals]
  split
  · rename_i hlt
    have hlen : ((p.drop litStart).take (i - litStart)).length = i - litStart := by
      rw [List.length_take, List.length_drop]
      omega
    refine ⟨[.literal ((p.drop litStart).take (i - litStart))], ?_, ?_, ?_⟩
    · intro r hr
      rw [List.mem_singleton.mp hr]
      constructor
      · show 0 < ((p.drop litStart).take (i - litStart)).length
        omega
      · show ((p.drop litStart).take (i - litStart)).length < 2 ^ 31
        omega
    · exact List.append_nil _
    · exact List.append_nil _
  · rename_i hge
    refine ⟨[], by simp, rfl, ?_⟩
    rw [Nat.sub_eq_zero_of_le (Nat.le_of_not_lt hge)]
    rfl

/-- **What the loop writes is records for what is left**, the literals that wait included. -/
theorem written_records {p : List UInt8} (hp : p.length < 2 ^ 31) (i litStart : Nat) (hl : litStart ≤ i)
    (hi : i ≤ p.length) :
    ∃ rs : List Record, (∀ r ∈ rs, r.Fits) ∧ textOf rs = writeRecords p i litStart ∧
      expandAll rs = p.drop litStart := by
  fun_induction writeRecords p i litStart with
  | case1 i litStart hlt run hrun ih =>
    have hle : i + run ≤ p.length := add_growRun_le hlt
    obtain ⟨lits, hlits, htext, hexpand⟩ := flushed_records litStart hp hi
    obtain ⟨rest, hrest, htext', hexpand'⟩ := ih (Nat.le_refl _) hle
    have hb : p[i]? = some (p.getD i 0) := by
      rw [List.getD_eq_getElem?_getD, List.getElem?_eq_getElem hlt]
      rfl
    have hsame := first_same hb
    refine ⟨lits ++ .repeated run (p.getD i 0) :: rest, ?_, ?_, ?_⟩
    · intro r hr
      rcases List.mem_append.mp hr with hr | hr
      · exact hlits r hr
      · rcases List.mem_cons.mp hr with rfl | hr
        · have hmax : run ≤ 0x7fffffff := growRun_le (by omega)
          rw [rleMinRun] at hrun
          rw [Record.Fits, Record.expand, List.length_replicate]
          omega
        · exact hrest r hr
    · rw [textOf_append, textOf_cons, htext, htext', List.append_assoc]
      rfl
    · rw [expandAll_append, expandAll_cons, hexpand, hexpand', Record.expand, ← hsame]
      calc (p.drop litStart).take (i - litStart) ++ ((p.drop i).take run ++ p.drop (i + run))
          = (p.drop litStart).take (i - litStart) ++ p.drop i := by
            rw [← List.drop_drop, List.take_append_drop]
        _ = p.drop litStart := by
            have hdrop : p.drop i = (p.drop litStart).drop (i - litStart) := by
              rw [List.drop_drop]
              congr 1
              omega
            rw [hdrop, List.take_append_drop]
  | case2 i litStart hlt run _ ih =>
    exact ih (by omega) (add_growRun_le hlt)
  | case3 i litStart hge =>
    obtain ⟨rs, hfits, htext, hexpand⟩ := flushed_records litStart hp (Nat.le_refl p.length)
    refine ⟨rs, hfits, htext, ?_⟩
    rw [hexpand, List.take_of_length_le]
    rw [List.length_drop]

/-! ## Reading records back -/

lemma low_count {n : Nat} (h : n < 2 ^ 31) : (UInt32.ofNat n &&& 0x7fffffff).toNat = n := by
  rw [UInt32.toNat_and, UInt32.toNat_ofNat_of_lt' (by rw [UInt32.size]; omega)]
  exact (Nat.and_two_pow_sub_one_eq_mod n 31).trans (Nat.mod_eq_of_lt h)

lemma flag_count {n : Nat} (h : n < 2 ^ 31) : UInt32.ofNat n &&& 0x80000000 = 0 := by
  apply UInt32.toNat_inj.mp
  rw [UInt32.toNat_and, UInt32.toNat_ofNat_of_lt' (by rw [UInt32.size]; omega)]
  apply Nat.eq_of_testBit_eq
  intro i
  rw [Nat.testBit_and]
  have hflag : (0x80000000 : UInt32).toNat = 2 ^ 31 := rfl
  rw [hflag, Nat.testBit_two_pow]
  by_cases hi : 31 = i
  · subst hi
    rw [Nat.testBit_lt_two_pow h]
    rfl
  · simp [hi]

lemma low_run {n : Nat} (h : n < 2 ^ 31) :
    ((UInt32.ofNat n ||| 0x80000000) &&& 0x7fffffff).toNat = n := by
  have hor : (UInt32.ofNat n ||| 0x80000000) &&& 0x7fffffff = UInt32.ofNat n &&& 0x7fffffff := by
    rw [or_and]
    exact UInt32.or_zero
  rw [hor, low_count h]

lemma flag_run (w : UInt32) : (w ||| 0x80000000) &&& 0x80000000 ≠ 0 := by
  rw [or_and]
  intro h
  exact absurd (UInt32.or_eq_zero_iff.mp h).2 (by decide)

def Record.count : Record → UInt32
  | .literal bytes => .ofNat bytes.length
  | .repeated n _ => .ofNat n ||| 0x80000000

def Record.payload : Record → List UInt8
  | .literal bytes => bytes
  | .repeated _ b => [b]

lemma Record.text_eq (r : Record) : r.text = u32Bytes r.count ++ r.payload := by
  cases r <;> rfl

lemma Record.toNat_count {r : Record} (h : r.Fits) : (r.count &&& 0x7fffffff).toNat = r.expand.length := by
  cases r with
  | literal bytes => exact low_count h.2
  | repeated n b =>
    have hn : n < 2 ^ 31 := by
      have := h.2
      rwa [expand, List.length_replicate] at this
    rw [expand, List.length_replicate]
    exact low_run hn

lemma Record.reads_payload {r : Record} (h : r.Fits) : Reads (readPayload r.count) r.payload r.expand := by
  have hlen := toNat_count h
  rw [readPayload, hlen]
  cases r with
  | literal bytes =>
    have hflag : UInt32.ofNat bytes.length &&& 0x80000000 = 0 := flag_count h.2
    rw [count, hflag, if_neg (not_not.mpr rfl)]
    exact Reads.bytes bytes
  | repeated n b =>
    rw [count, if_pos (flag_run _), expand, List.length_replicate]
    exact (Reads.u8 b).last (Reads.pure _)

def storesFrom : Nat → List Record → List Store
  | _, [] => []
  | pos, r :: rs => ⟨pos, r.expand⟩ :: storesFrom (pos + r.expand.length) rs

/-- **The reader reads records back.** -/
theorem reads_records (len : Nat) (rs : List Record) (hfits : ∀ r ∈ rs, r.Fits) (pos : Nat)
    (h : pos + (expandAll rs).length = len) :
    Reads (readRecords len pos) (textOf rs) (storesFrom pos rs) := by
  induction rs generalizing pos with
  | nil =>
    have hpos : ¬ pos < len := by
      rw [← h]
      exact Nat.lt_irrefl _
    rw [readRecords, dif_neg hpos]
    exact Reads.pure []
  | cons r rs ih =>
    have hr := hfits r List.mem_cons_self
    have hcount := r.toNat_count hr
    rw [expandAll_cons, List.length_append] at h
    have hrest := ih (fun s hs => hfits s (List.mem_cons_of_mem _ hs)) (pos + r.expand.length) (by omega)
    have hpos : pos < len := by
      have := hr.1
      omega
    have hn : ¬ ((r.count &&& 0x7fffffff).toNat = 0 ∨ len - pos < (r.count &&& 0x7fffffff).toNat) := by
      have := hr.1
      omega
    rw [readRecords, dif_pos hpos, textOf_cons, Record.text_eq, List.append_assoc]
    have hclean : Reads failed [] false := Reads.failed
    refine hclean.bind ((Reads.u32 r.count).bind ?_)
    rw [dif_neg hn, hcount]
    exact (Record.reads_payload hr).bind (hrest.last (Reads.pure _))

def storeAll (stores : List Store) (m : Nat → UInt8) : Nat → UInt8 :=
  Overlay.overlayAll (stores.map Store.patch) m

lemma storeAll_storesFrom (rs : List Record) (pos : Nat) (m : Nat → UInt8) (x : Nat) :
    storeAll (storesFrom pos rs) m x = (if pos ≤ x then (expandAll rs)[x - pos]? else none).getD (m x) := by
  unfold storeAll
  induction rs generalizing pos m with
  | nil => simp [storesFrom, expandAll, Overlay.overlayAll]
  | cons r rs ih =>
    rw [storesFrom, List.map_cons, Overlay.overlayAll_cons, ih, expandAll_cons, Overlay.overlay,
      Store.patch]
    by_cases hx : pos ≤ x
    · rw [if_pos hx, if_pos hx]
      by_cases hr : pos + r.expand.length ≤ x
      · have hnone : r.expand[x - pos]? = none := List.getElem?_eq_none (by omega)
        rw [if_pos hr, List.getElem?_append_right (by omega), hnone, Nat.sub_sub]
        rfl
      · rw [if_neg hr, List.getElem?_append_left (by omega)]
        rfl
    · have hr : ¬ pos + r.expand.length ≤ x := by omega
      rw [if_neg hx, if_neg hx, if_neg hr]
      rfl

/-- **What is written is read back**: the reader takes exactly the bytes of the writer, whatever follows them,
without an error, and its stores leave the data in the memory and nothing else. -/
def RoundTrips (data : List UInt8) : Prop :=
  ∃ stores, Reads (savestateReadRle data.length) (savestateWriteRle data) stores ∧
    ∀ m x, storeAll stores m x = (data[x]?).getD (m x)

lemma roundTrips {data : List UInt8} (h : data.length < 2 ^ 31) : RoundTrips data := by
  obtain ⟨rs, hfits, htext, hexpand⟩ := written_records h 0 0 (Nat.le_refl 0) (Nat.zero_le _)
  rw [List.drop_zero] at hexpand
  have hread := reads_records data.length rs hfits 0 (by rw [hexpand, Nat.zero_add])
  refine ⟨storesFrom 0 rs, ?_, ?_⟩
  · rw [savestateWriteRle, ← htext]
    refine (Reads.u32 _).bind ?_
    rw [if_neg (not_not.mpr rfl)]
    exact hread
  · intro m x
    rw [storeAll_storesFrom, hexpand, if_pos (Nat.zero_le x), Nat.sub_zero]

/-! ## Any file -/

/-- The stores are inside the memory from `pos` to `len`; and they are at all of it, or there was an error. -/
structure Confined (pos len : Nat) (stores : List Store) (error : Bool) : Prop where
  inside : ∀ st ∈ stores, pos ≤ st.offset ∧ st.offset + st.bytes.length ≤ len
  whole : error = true ∨ ∀ x, pos ≤ x → x < len → ∃ st ∈ stores, (st.patch x).isSome = true

lemma Confined.failed (pos len : Nat) : Confined pos len [] true := ⟨nofun, .inl rfl⟩

lemma Confined.cons {pos n len : Nat} {bytes : List UInt8} {stores : List Store} {error : Bool}
    (hbytes : bytes.length = n) (hn : n ≤ len - pos) (hpos : pos < len)
    (h : Confined (pos + n) len stores error) : Confined pos len (⟨pos, bytes⟩ :: stores) error := by
  refine ⟨?_, h.whole.imp_right fun hall x hx hlt => ?_⟩
  · intro st hst
    rcases List.mem_cons.mp hst with rfl | hst
    · refine ⟨Nat.le_refl pos, ?_⟩
      show pos + bytes.length ≤ len
      omega
    · have hin := h.inside st hst
      omega
  · by_cases hfirst : x < pos + n
    · refine ⟨⟨pos, bytes⟩, List.mem_cons_self, ?_⟩
      have hin : x - pos < bytes.length := by omega
      rw [Store.patch, if_pos hx, List.getElem?_eq_getElem hin]
      rfl
    · obtain ⟨st, hst, hsome⟩ := hall x (by omega) hlt
      exact ⟨st, List.mem_cons_of_mem _ hst, hsome⟩

lemma length_read (s : Stream) (n : Nat) : (s.read n).1.length = n := by
  rw [Stream.read]
  split
  · rename_i h
    exact (List.length_take).trans (Nat.min_eq_left h)
  · exact List.length_replicate

lemma length_payload (c : UInt32) (s : Stream) :
    ((readPayload c).run handler s).1.length = (c &&& 0x7fffffff).toNat := by
  rw [readPayload]
  split
  · rw [Prog.run_bind]
    exact List.length_replicate
  · exact length_read s _

lemma readRecords_confined (len pos : Nat) (s : Stream) :
    Confined pos len ((readRecords len pos).run handler s).1 ((readRecords len pos).run handler s).2.error := by
  induction hleft : len - pos using Nat.strong_induction_on generalizing pos s with
  | _ left ih =>
    rw [readRecords]
    by_cases hpos : pos < len
    · rw [dif_pos hpos, Prog.run_bind]
      show Confined pos len ((if s.error = true then _ else _ : Read (List Store)).run handler s).1
        ((if s.error = true then _ else _ : Read (List Store)).run handler s).2.error
      by_cases he : s.error = true
      · rw [if_pos he]
        show Confined pos len [] s.error
        rw [he]
        exact .failed pos len
      rw [if_neg he, Prog.run_bind]
      generalize hc : (readU32.run handler s).1 = c
      generalize (readU32.run handler s).2 = s
      by_cases hn : (c &&& 0x7fffffff).toNat = 0 ∨ len - pos < (c &&& 0x7fffffff).toNat
      · rw [dif_pos hn]
        exact .failed pos len
      rw [dif_neg hn, Prog.run_bind, Prog.run_bind]
      refine .cons (length_payload c s) (by omega) hpos ?_
      exact ih (len - (pos + (c &&& 0x7fffffff).toNat)) (by omega) _ _ rfl
    · rw [dif_neg hpos]
      refine ⟨nofun, .inr fun x hx hlt => ?_⟩
      omega

lemma readRle_confined (len : Nat) (s : Stream) :
    Confined 0 len ((savestateReadRle len).run handler s).1 ((savestateReadRle len).run handler s).2.error := by
  rw [savestateReadRle, Prog.run_bind]
  generalize (readU32.run handler s).1 = length
  generalize (readU32.run handler s).2 = s
  by_cases hlength : length ≠ .ofNat len
  · rw [if_pos hlength]
    exact .failed 0 len
  · rw [if_neg hlength]
    exact readRecords_confined len 0 s

/-- **The run-length codec.**  Data of less than two gigabytes is read back as it was written; and whatever
the file is, the reader stays inside the memory it is given, and latches the error or fills all of it. -/
theorem rle_codec :
    (∀ data : List UInt8, data.length < 2 ^ 31 → RoundTrips data) ∧
      ∀ (len : Nat) (s : Stream),
        Confined 0 len ((savestateReadRle len).run handler s).1
          ((savestateReadRle len).run handler s).2.error :=
  ⟨fun _ h => roundTrips h, readRle_confined⟩

theorem rle_codec_run : RoundTrips ([1, 2, 3] ++ List.replicate 20 0 ++ [4]) :=
  rle_codec.1 _ (by decide)

end RpcEmu.Snapshot
