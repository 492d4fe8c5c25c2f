import Mathlib.Data.List.Basic
import Mathlib.Data.Nat.Bitwise
import Mathlib.Data.UInt
import Mathlib.Tactic.Common
import Mathlib.Tactic.IntervalCases

/-!
# What the monitor says it can show

`edid.c` makes a block of 128 bytes out of the one in the ROM: which sizes there are stands in it in four ways, as
bits of two fixed lists, as a width with an aspect, and as timings in full.  `edidBlockDeclares` reads it back.
-/

namespace RpcEmu.Gfx

/-! ## Sizes -/

/-- `timing_bit_t`. -/
structure TimingBit where
  byte : Nat
  bit : Nat
  x : Nat
  y : Nat
  deriving DecidableEq, Repr

def establishedTimings : List TimingBit :=
  [⟨0, 7, 720, 400⟩, ⟨0, 5, 640, 480⟩, ⟨0, 3, 640, 480⟩, ⟨0, 2, 640, 480⟩, ⟨0, 1, 800, 600⟩, ⟨0, 0, 800, 600⟩,
    ⟨1, 7, 800, 600⟩, ⟨1, 6, 800, 600⟩, ⟨1, 5, 832, 624⟩, ⟨1, 3, 1024, 768⟩, ⟨1, 2, 1024, 768⟩, ⟨1, 1, 1024, 768⟩,
    ⟨1, 0, 1280, 1024⟩, ⟨2, 7, 1152, 870⟩]

def establishedTimings3 : List TimingBit :=
  [⟨0, 7, 640, 350⟩, ⟨0, 6, 640, 400⟩, ⟨0, 5, 720, 400⟩, ⟨0, 4, 640, 480⟩, ⟨0, 3, 848, 480⟩, ⟨0, 2, 800, 600⟩,
    ⟨0, 1, 1024, 768⟩, ⟨0, 0, 1152, 864⟩, ⟨1, 7, 1280, 768⟩, ⟨1, 6, 1280, 768⟩, ⟨1, 5, 1280, 768⟩, ⟨1, 4, 1280, 768⟩,
    ⟨1, 3, 1280, 960⟩, ⟨1, 2, 1280, 960⟩, ⟨1, 1, 1280, 1024⟩, ⟨1, 0, 1280, 1024⟩, ⟨2, 7, 1360, 768⟩,
    ⟨2, 6, 1440, 900⟩, ⟨2, 5, 1440, 900⟩, ⟨2, 4, 1440, 900⟩, ⟨2, 3, 1440, 900⟩, ⟨2, 2, 1400, 1050⟩,
    ⟨2, 1, 1400, 1050⟩, ⟨2, 0, 1400, 1050⟩, ⟨3, 7, 1400, 1050⟩, ⟨3, 6, 1680, 1050⟩, ⟨3, 5, 1680, 1050⟩,
    ⟨3, 4, 1680, 1050⟩, ⟨3, 3, 1680, 1050⟩, ⟨3, 2, 1600, 1200⟩, ⟨3, 1, 1600, 1200⟩, ⟨3, 0, 1600, 1200⟩,
    ⟨4, 7, 1600, 1200⟩, ⟨4, 6, 1600, 1200⟩, ⟨4, 5, 1792, 1344⟩, ⟨4, 4, 1792, 1344⟩, ⟨4, 3, 1856, 1392⟩,
    ⟨4, 2, 1856, 1392⟩, ⟨4, 1, 1920, 1200⟩, ⟨4, 0, 1920, 1200⟩, ⟨5, 7, 1920, 1200⟩, ⟨5, 6, 1920, 1200⟩,
    ⟨5, 5, 1920, 1440⟩, ⟨5, 4, 1920, 1440⟩]

/-- The established modes as `edid_block_declares` has them, by their bytes in the block. -/
def declaredTimings : List TimingBit :=
  [⟨0x23, 7, 720, 400⟩, ⟨0x23, 5, 640, 480⟩, ⟨0x23, 3, 640, 480⟩, ⟨0x23, 2, 640, 480⟩, ⟨0x23, 1, 800, 600⟩,
    ⟨0x23, 0, 800, 600⟩, ⟨0x24, 7, 800, 600⟩, ⟨0x24, 6, 800, 600⟩, ⟨0x24, 5, 832, 624⟩, ⟨0x24, 3, 1024, 768⟩,
    ⟨0x24, 2, 1024, 768⟩, ⟨0x24, 1, 1024, 768⟩, ⟨0x24, 0, 1280, 1024⟩, ⟨0x25, 7, 1152, 870⟩]

/-- `ASPECT_...`. -/
def aspect16by10 : Nat := 0
def aspect4by3 : Nat := 1
def aspect5by4 : Nat := 2
def aspect16by9 : Nat := 3

structure Rung where
  x : Nat
  y : Nat
  aspect : Nat
  deriving DecidableEq, Repr

/-- `ladder`. -/
def ladder : List Rung :=
  [⟨1280, 1024, aspect5by4⟩, ⟨1440, 900, aspect16by10⟩, ⟨1600, 1200, aspect4by3⟩, ⟨1680, 1050, aspect16by10⟩,
    ⟨1920, 1080, aspect16by9⟩, ⟨1152, 864, aspect4by3⟩, ⟨1280, 960, aspect4by3⟩, ⟨1280, 720, aspect16by9⟩]

def detailOnlyModes : List (Nat × Nat) := [(3840, 2160), (3440, 1440), (2560, 1440)]

def hblankPixels : Nat := 160
def hfrontPixels : Nat := 48
def hsyncPixels : Nat := 32
def vfrontLines : Nat := 3
def vsyncLines : Nat := 6
def vbackLines : Nat := 29
def vblankLines : Nat := vfrontLines + vsyncLines + vbackLines

def et3Tag : UInt8 := 0xf7
def et3Revision : UInt8 := 0x0a
def et3BitmapOffset : Nat := 6
def et3BitmapBytes : Nat := 6

def descPreferred : Nat := 0x36
def descSecond : Nat := 0x48
def descThird : Nat := 0x5a
def descFourth : Nat := 0x6c

/-! ## The block -/

/-- `EDID_BLOCK_SIZE` bytes. -/
abbrev Block : Type := Nat → UInt8

/-- Some bytes from `start` on. -/
def Block.put (b : Block) (start : Nat) (bytes : List UInt8) : Block :=
  fun i => if start ≤ i ∧ i < start + bytes.length then bytes.getD (i - start) 0 else b i

/-- `1u << bit`. -/
def bitMask (bit : Nat) : UInt8 := 1 <<< UInt8.ofNat bit

/-- `set_timing_bits`. -/
def setTimingBits (bitmap : List UInt8) (table : List TimingBit) (x y : Nat) : List UInt8 :=
  table.foldl (fun bitmap t =>
    if bitmap.length ≤ t.byte then bitmap
    else if x < t.x ∨ y < t.y then bitmap
    else bitmap.modify t.byte (· ||| bitMask t.bit)) bitmap

/-- The dot clock of `build_detailed_timing`, before it is cut off. -/
def pixelClock (x y hz : Nat) : Nat := (x + hblankPixels) * (y + vblankLines) * hz / 10000

/-- `build_detailed_timing`. -/
def buildDetailedTiming (x y hz : Nat) : List UInt8 :=
  let clock10k := min (pixelClock x y hz) 0xffff
  [UInt8.ofNat clock10k, UInt8.ofNat (clock10k >>> 8),
    UInt8.ofNat x, UInt8.ofNat hblankPixels, UInt8.ofNat ((x >>> 8) <<< 4 ||| ((hblankPixels >>> 8) &&& 0x0f)),
    UInt8.ofNat y, UInt8.ofNat vblankLines, UInt8.ofNat ((y >>> 8) <<< 4 ||| ((vblankLines >>> 8) &&& 0x0f)),
    UInt8.ofNat hfrontPixels, UInt8.ofNat hsyncPixels, UInt8.ofNat (vfrontLines <<< 4 ||| vsyncLines), 0,
    0, 0, 0, 0, 0, 0x1e]

/-- `set_standard_timing`. -/
def setStandardTiming (x aspect hz : Nat) : UInt8 × UInt8 :=
  if x < 256 ∨ 2288 < x ∨ hz < 60 then (0x01, 0x01)
  else (UInt8.ofNat (x / 8 - 31), UInt8.ofNat ((aspect &&& 3) <<< 6 ||| (hz - 60) &&& 0x3f))

def standardTimings (maxX maxY : Nat) : List (UInt8 × UInt8) :=
  let used := ((ladder.filter fun r => r.x ≤ maxX ∧ r.y ≤ maxY).take 8).map fun r => setStandardTiming r.x r.aspect 60
  used ++ List.replicate (8 - used.length) (0x01, 0x01)

def buildEt3 (maxX maxY : Nat) : List UInt8 :=
  let bitmap := List.replicate et3BitmapBytes 0
  [0, 0, 0, et3Tag, 0, et3Revision] ++ setTimingBits bitmap establishedTimings3 maxX maxY ++ List.replicate 6 0

def spareModes (x y maxX maxY : Nat) : List (Nat × Nat) :=
  (detailOnlyModes.filter fun m => m.1 ≤ maxX ∧ m.2 ≤ maxY ∧ m ≠ (x, y)).take 2

def putSpare (out : Block) (start : Nat) (mode : Option (Nat × Nat)) (hz : Nat) : Block :=
  match mode with
  | some m => out.put start (buildDetailedTiming m.1 m.2 hz)
  | none => out

def Block.sum (b : Block) (len : Nat) : Nat := ((List.range len).map fun i => (b i).toNat).sum

/-- What `edid_build_from_base` writes up to the second descriptor. -/
def putTimings (base : Block) (x y maxX maxY hz : Nat) : Block :=
  let out := base.put 19 [3]
  let out := out.put 24 [out 24 ||| 0x02]
  let out := out.put 0x23 (setTimingBits [0, 0, 0] establishedTimings maxX maxY)
  let out := out.put 0x26 ((standardTimings maxX maxY).flatMap fun p => [p.1, p.2])
  let out := out.put descPreferred (buildDetailedTiming x y hz)
  out.put descSecond (buildEt3 maxX maxY)

def putSpares (out : Block) (x y maxX maxY hz : Nat) : Block :=
  let spare := spareModes x y maxX maxY
  putSpare (putSpare out descThird spare[0]? hz) descFourth spare[1]? hz

/-- `edid_build_from_base`. -/
def edidBuildFromBase (base : Block) (x y maxX maxY hz : Nat) : Block :=
  let maxX := max maxX x
  let maxY := max maxY y
  let out := putSpares (putTimings base x y maxX maxY hz) x y maxX maxY hz
  out.put 0x7f [UInt8.ofNat (256 - out.sum 127 % 256)]

/-- `edid_block_is_valid`. -/
def edidBlockIsValid (b : Block) : Bool :=
  (List.range 8).map b == [0x00, 0xff, 0xff, 0xff, 0xff, 0xff, 0xff, 0x00] && b 18 == 1 && b.sum 128 % 256 == 0

/-- `detailed_timing_size`. -/
def detailedTimingSize (d : Block) : Nat × Nat :=
  ((d 2).toNat ||| (d 4 &&& 0xf0).toNat <<< 4, (d 5).toNat ||| (d 7 &&& 0xf0).toNat <<< 4)

def hasBit (byte : UInt8) (bit : Nat) : Bool := byte &&& bitMask bit != 0

def aspectHeight (w : Nat) (aspect : Nat) : Nat :=
  w * [10, 3, 4, 9].getD aspect 0 / [16, 4, 5, 16].getD aspect 1

def standardSize (p : UInt8 × UInt8) : Option (Nat × Nat) :=
  if p.1 = 0x01 ∧ p.2 = 0x01 then none
  else
    let w := (p.1.toNat + 31) * 8
    some (w, aspectHeight w ((p.2 >>> 6).toNat &&& 3))

def descriptorDeclares (d : Block) (w h : Nat) : Bool :=
  if d 0 ≠ 0 ∨ d 1 ≠ 0 then detailedTimingSize d == (w, h)
  else d 3 == et3Tag && d 4 == 0 &&
    establishedTimings3.any fun t =>
      t.x == w && t.y == h && t.byte < et3BitmapBytes && hasBit (d (et3BitmapOffset + t.byte)) t.bit

/-- `edid_block_declares`. -/
def edidBlockDeclares (b : Block) (w h : Nat) : Bool :=
  w != 0 && h != 0 &&
    (declaredTimings.any (fun t => t.x == w && t.y == h && hasBit (b t.byte) t.bit) ||
      (List.range 8).any (fun i => standardSize (b (0x26 + 2 * i), b (0x26 + 2 * i + 1)) == some (w, h)) ||
        (List.range 4).any fun i => descriptorDeclares (fun j => b (descPreferred + i * 18 + j)) w h)

/-! ## What stands where -/

section Regions

variable {b base : Block} {x y maxX maxY hz : Nat}

lemma put_apart {start i : Nat} {bytes : List UInt8} (h : i < start ∨ start + bytes.length ≤ i) :
    b.put start bytes i = b i := if_neg (by omega)

lemma put_at {start j : Nat} {bytes : List UInt8} (h : j < bytes.length) :
    b.put start bytes (start + j) = bytes.getD j 0 := by
  unfold Block.put
  rw [if_pos (by omega), Nat.add_sub_cancel_left]

@[simp] lemma length_setTimingBits (bitmap : List UInt8) (table : List TimingBit) (x y : Nat) :
    (setTimingBits bitmap table x y).length = bitmap.length := by
  unfold setTimingBits
  induction table generalizing bitmap with
  | nil => rfl
  | cons t table ih =>
    rw [List.foldl_cons, ih]
    split_ifs
    · rfl
    · rfl
    · exact List.length_modify ..

@[simp] lemma length_standardTimings (maxX maxY : Nat) : (standardTimings maxX maxY).length = 8 := by
  unfold standardTimings
  simp only [List.length_append, List.length_replicate, List.length_map, List.length_take]
  omega

lemma length_pairs (l : List (UInt8 × UInt8)) : (l.flatMap fun p => [p.1, p.2]).length = 2 * l.length := by
  induction l with
  | nil => rfl
  | cons p l ih =>
    simp only [List.flatMap_cons, List.length_append, List.length_cons, List.length_nil, ih]
    omega

lemma getD_pairs (l : List (UInt8 × UInt8)) (i : Nat) (p : UInt8 × UInt8) (h : l[i]? = some p) :
    (l.flatMap fun p => [p.1, p.2]).getD (2 * i) 0 = p.1 ∧
      (l.flatMap fun p => [p.1, p.2]).getD (2 * i + 1) 0 = p.2 := by
  induction l generalizing i with
  | nil => simp at h
  | cons q l ih =>
    cases i with
    | zero =>
      rw [List.getElem?_cons_zero, Option.some.injEq] at h
      subst h
      exact ⟨rfl, rfl⟩
    | succ i => exact ih i (by simpa using h)

lemma length_buildDetailedTiming (x y hz : Nat) : (buildDetailedTiming x y hz).length = 18 := rfl

lemma length_buildEt3 (maxX maxY : Nat) : (buildEt3 maxX maxY).length = 18 := by
  simp [buildEt3, et3BitmapBytes]

lemma putSpare_apart {start i : Nat} {mode : Option (Nat × Nat)} (h : i < start ∨ start + 18 ≤ i) :
    putSpare b start mode hz i = b i := by
  unfold putSpare
  split
  · exact put_apart (by rwa [length_buildDetailedTiming])
  · rfl

lemma length_standardBytes (maxX maxY : Nat) :
    ((standardTimings maxX maxY).flatMap fun p => [p.1, p.2]).length = 16 := by
  rw [length_pairs, length_standardTimings]

lemma putTimings_low {i : Nat} (h : i < 19) : putTimings base x y maxX maxY hz i = base i := by
  unfold putTimings
  dsimp only [descPreferred, descSecond]
  rw [put_apart (by omega), put_apart (by omega), put_apart (by omega), put_apart (by omega), put_apart (by omega),
    put_apart (by omega)]

lemma putTimings_high {i : Nat} (h : descThird ≤ i) : putTimings base x y maxX maxY hz i = base i := by
  have hi : 0x5a ≤ i := h
  have hset := length_setTimingBits [0, 0, 0] establishedTimings maxX maxY
  have hstandard := length_standardBytes maxX maxY
  have hsecond := length_buildEt3 maxX maxY
  have hdetailed := length_buildDetailedTiming x y hz
  simp only [List.length_cons, List.length_nil] at hset
  unfold putTimings
  dsimp only [descPreferred, descSecond]
  rw [put_apart (by omega), put_apart (by omega), put_apart (by omega), put_apart (by omega),
    put_apart (Or.inr (le_trans (by decide : 24 + 1 ≤ 0x5a) hi)),
    put_apart (Or.inr (le_trans (by decide : 19 + 1 ≤ 0x5a) hi))]

lemma putTimings_established {j : Nat} (h : j < 3) : putTimings base x y maxX maxY hz (0x23 + j) =
    (setTimingBits [0, 0, 0] establishedTimings maxX maxY).getD j 0 := by
  unfold putTimings
  dsimp only [descPreferred, descSecond]
  rw [put_apart (by omega), put_apart (by omega), put_apart (by omega), put_at (by simpa using h)]

lemma putTimings_standard {j : Nat} (h : j < 16) : putTimings base x y maxX maxY hz (0x26 + j) =
    ((standardTimings maxX maxY).flatMap fun p => [p.1, p.2]).getD j 0 := by
  unfold putTimings
  dsimp only [descPreferred, descSecond]
  rw [put_apart (by omega), put_apart (by omega), put_at (by rwa [length_standardBytes])]

lemma putTimings_preferred {j : Nat} (h : j < 18) : putTimings base x y maxX maxY hz (descPreferred + j) =
    (buildDetailedTiming x y hz).getD j 0 := by
  unfold putTimings
  dsimp only [descPreferred, descSecond]
  rw [put_apart (by omega), put_at h]

lemma putTimings_second {j : Nat} (h : j < 18) : putTimings base x y maxX maxY hz (descSecond + j) =
    (buildEt3 maxX maxY).getD j 0 := put_at (by rwa [length_buildEt3])

def spareByte (base : Block) (start : Nat) (mode : Option (Nat × Nat)) (hz j : Nat) : UInt8 :=
  match mode with
  | some m => (buildDetailedTiming m.1 m.2 hz).getD j 0
  | none => base (start + j)

lemma putSpare_at {start j : Nat} {mode : Option (Nat × Nat)} (h : j < 18) :
    putSpare b start mode hz (start + j) = spareByte b start mode hz j := by
  cases mode with
  | none => rfl
  | some m => exact put_at h

lemma putSpares_low {i : Nat} (h : i < descThird) : putSpares b x y maxX maxY hz i = b i := by
  have hi : i < 0x5a := h
  unfold putSpares
  dsimp only [descThird, descFourth]
  rw [putSpare_apart (by omega), putSpare_apart (by omega)]

lemma putSpares_third {j : Nat} (h : j < 18) : putSpares b x y maxX maxY hz (descThird + j) =
    spareByte b descThird (spareModes x y maxX maxY)[0]? hz j := by
  unfold putSpares
  dsimp only [descFourth]
  rw [putSpare_apart (Or.inl (by unfold descThird; omega)), putSpare_at h]

lemma putSpares_fourth {j : Nat} (h : j < 18) : putSpares b x y maxX maxY hz (descFourth + j) =
    spareByte b descFourth (spareModes x y maxX maxY)[1]? hz j := by
  unfold putSpares
  rw [putSpare_at h]
  unfold spareByte
  split
  · rfl
  · exact putSpare_apart (Or.inr (by unfold descThird descFourth; omega))

lemma built_below {i : Nat} (h : i < 0x7f) : edidBuildFromBase base x y maxX maxY hz i =
    putSpares (putTimings base x y (max maxX x) (max maxY y) hz) x y (max maxX x) (max maxY y) hz i :=
  put_apart (Or.inl h)

end Regions

/-! ## Its validity -/

lemma sum_succ (b : Block) (len : Nat) : b.sum (len + 1) = b.sum len + (b len).toNat := by
  simp [Block.sum, List.range_succ]

lemma sum_congr {b b' : Block} {len : Nat} (h : ∀ i < len, b i = b' i) : b.sum len = b'.sum len := by
  induction len with
  | zero => rfl
  | succ len ih => rw [sum_succ, sum_succ, ih fun i hi => h i (by omega), h len (by omega)]

lemma valid_built {base : Block} (hvalid : edidBlockIsValid base = true) (x y maxX maxY hz : Nat) :
    edidBlockIsValid (edidBuildFromBase base x y maxX maxY hz) = true := by
  have hlow : ∀ i < 19, edidBuildFromBase base x y maxX maxY hz i = base i := fun i hi => by
    rw [built_below (by omega), putSpares_low (by unfold descThird; omega), putTimings_low hi]
  unfold edidBlockIsValid at hvalid ⊢
  rw [Bool.and_eq_true, Bool.and_eq_true] at hvalid ⊢
  obtain ⟨⟨hheader, hversion⟩, -⟩ := hvalid
  refine ⟨⟨?_, by rwa [hlow 18 (by decide)]⟩, ?_⟩
  · rw [List.map_congr_left fun i hi => hlow i (by have := List.mem_range.mp hi; omega)]
    exact hheader
  · unfold edidBuildFromBase
    dsimp only
    generalize putSpares _ x y _ _ hz = out
    have hrest : (out.put 0x7f [UInt8.ofNat (256 - out.sum 127 % 256)]).sum 127 = out.sum 127 :=
      sum_congr fun i hi => put_apart (Or.inl hi)
    have hlast : out.put 0x7f [UInt8.ofNat (256 - out.sum 127 % 256)] 127 = UInt8.ofNat (256 - out.sum 127 % 256) :=
      put_at (j := 0) Nat.one_pos
    rw [sum_succ, hrest, hlast, UInt8.toNat_ofNat', beq_iff_eq]
    omega

/-! ## The two lists -/

/-- The mode is within the ceiling. -/
def Fits (maxX maxY w h : Nat) : Prop := w ≤ maxX ∧ h ≤ maxY

lemma toNat_bitMask {bit : Nat} (h : bit < 8) : (bitMask bit).toNat = 2 ^ bit := by
  interval_cases bit <;> rfl

lemma hasBit_eq (byte : UInt8) {bit : Nat} (h : bit < 8) : hasBit byte bit = byte.toNat.testBit bit := by
  have hzero : byte &&& bitMask bit = 0 ↔ byte.toNat.testBit bit = false := by
    rw [← UInt8.toNat_inj, UInt8.toNat_and, toNat_bitMask h, Nat.and_two_pow]
    cases byte.toNat.testBit bit <;> simp
  unfold hasBit
  rw [Bool.eq_iff_iff, bne_iff_ne, ne_eq, hzero, Bool.not_eq_false]

lemma hasBit_zero (bit : Nat) : hasBit 0 bit = false := by simp [hasBit]

lemma hasBit_or (byte : UInt8) {bit bit' : Nat} (h : bit < 8) (h' : bit' < 8) :
    hasBit (byte ||| bitMask bit') bit = true ↔ hasBit byte bit = true ∨ bit' = bit := by
  rw [hasBit_eq _ h, hasBit_eq _ h, UInt8.toNat_or, toNat_bitMask h', Nat.testBit_or, Nat.testBit_two_pow,
    Bool.or_eq_true, decide_eq_true_eq]

lemma getD_modify (l : List UInt8) (f : UInt8 → UInt8) {i j : Nat} (h : i < l.length) :
    (l.modify i f).getD j 0 = if i = j then f (l.getD j 0) else l.getD j 0 := by
  rw [List.getD_eq_getElem?_getD, List.getD_eq_getElem?_getD, List.getElem?_modify]
  split_ifs with hij
  · subst hij
    rw [List.getElem?_eq_getElem h]
    rfl
  · simp

/-- **A bit of a list is set if its size fits.** -/
lemma hasBit_setTimingBits (table : List TimingBit) (bitmap : List UInt8) (x y byte : Nat) {bit : Nat}
    (hbit : bit < 8) (htable : ∀ t ∈ table, t.byte < bitmap.length ∧ t.bit < 8) :
    hasBit ((setTimingBits bitmap table x y).getD byte 0) bit = true ↔
      hasBit (bitmap.getD byte 0) bit = true ∨ ∃ t ∈ table, t.byte = byte ∧ t.bit = bit ∧ Fits x y t.x t.y := by
  induction table generalizing bitmap with
  | nil => simp [setTimingBits]
  | cons t table ih =>
    obtain ⟨ht, hrest⟩ := List.forall_mem_cons.mp htable
    have hstep : setTimingBits bitmap (t :: table) x y =
        setTimingBits (if x < t.x ∨ y < t.y then bitmap else bitmap.modify t.byte (· ||| bitMask t.bit)) table
          x y := by
      unfold setTimingBits
      rw [List.foldl_cons, if_neg (by omega)]
    rw [hstep, List.exists_mem_cons_iff]
    by_cases hfits : Fits x y t.x t.y
    · have hin : ¬(x < t.x ∨ y < t.y) := by
        unfold Fits at hfits
        omega
      rw [if_neg hin, ih _ (by simpa using hrest), getD_modify _ _ ht.1]
      split_ifs with hbyte
      · rw [hasBit_or _ hbit ht.2]
        simp only [hbyte, hfits, true_and, and_true, or_assoc]
      · simp only [hbyte, false_and, false_or]
    · have hout : x < t.x ∨ y < t.y := by
        unfold Fits at hfits
        omega
      rw [if_pos hout, ih _ hrest]
      simp only [hfits, and_false, false_or]

/-- No two timings share a bit. -/
def Distinct (table : List TimingBit) : Prop :=
  ∀ t ∈ table, ∀ t' ∈ table, t'.byte = t.byte → t'.bit = t.bit → t' = t

instance (table : List TimingBit) : Decidable (Distinct table) :=
  inferInstanceAs (Decidable (∀ t ∈ table, ∀ t' ∈ table, t'.byte = t.byte → t'.bit = t.bit → t' = t))

lemma hasBit_entry {table : List TimingBit} (hdistinct : Distinct table) {len : Nat}
    (htable : ∀ t ∈ table, t.byte < len ∧ t.bit < 8) {t : TimingBit} (ht : t ∈ table) (x y : Nat) :
    hasBit ((setTimingBits (List.replicate len 0) table x y).getD t.byte 0) t.bit = true ↔ Fits x y t.x t.y := by
  have hzero : (List.replicate len (0 : UInt8)).getD t.byte 0 = 0 := by
    rw [List.getD_eq_getElem?_getD, List.getElem?_replicate]
    split <;> rfl
  rw [hasBit_setTimingBits _ _ _ _ _ (htable t ht).2 (by simpa using htable), hzero, hasBit_zero]
  constructor
  · rintro (h | ⟨t', ht', hbyte, hbit, hfits⟩)
    · exact absurd h (by decide)
    · rwa [hdistinct t ht t' ht' hbyte hbit] at hfits
  · exact fun h => Or.inr ⟨t, ht, rfl, rfl, h⟩

lemma any_entry {table : List TimingBit} (hdistinct : Distinct table) {len : Nat}
    (htable : ∀ t ∈ table, t.byte < len ∧ t.bit < 8) (x y w h : Nat) :
    (table.any fun t => t.x == w && t.y == h &&
        hasBit ((setTimingBits (List.replicate len 0) table x y).getD t.byte 0) t.bit) = true ↔
      (w, h) ∈ table.map (fun t => (t.x, t.y)) ∧ Fits x y w h := by
  rw [List.any_eq_true, List.mem_map]
  constructor
  · rintro ⟨t, ht, hdeclared⟩
    rw [Bool.and_eq_true, Bool.and_eq_true, beq_iff_eq, beq_iff_eq, hasBit_entry hdistinct htable ht] at hdeclared
    obtain ⟨⟨rfl, rfl⟩, hfits⟩ := hdeclared
    exact ⟨⟨t, ht, rfl⟩, hfits⟩
  · rintro ⟨⟨t, ht, hsize⟩, hfits⟩
    obtain ⟨rfl, rfl⟩ := Prod.mk.inj hsize
    refine ⟨t, ht, ?_⟩
    rw [Bool.and_eq_true, Bool.and_eq_true, beq_iff_eq, beq_iff_eq, hasBit_entry hdistinct htable ht]
    exact ⟨⟨rfl, rfl⟩, hfits⟩

lemma distinct_established : Distinct establishedTimings := by decide

lemma distinct_established3 : Distinct establishedTimings3 := by decide

lemma declaredTimings_eq :
    declaredTimings = establishedTimings.map fun t => { t with byte := 0x23 + t.byte } := rfl

/-! ## The ladder -/

/-- **A size is read as it is written**, and not as a slot that is not used. -/
lemma ladder_readable : ∀ r ∈ ladder, standardSize (setStandardTiming r.x r.aspect 60) = some (r.x, r.y) := by decide

lemma standardSlot (maxX maxY : Nat) {i : Nat} (h : i < 8) : ∃ p, (standardTimings maxX maxY)[i]? = some p ∧
    standardSize p = ((ladder.filter fun r => r.x ≤ maxX ∧ r.y ≤ maxY)[i]?).map fun r => (r.x, r.y) := by
  have htake : (ladder.filter fun r => r.x ≤ maxX ∧ r.y ≤ maxY).take 8 =
      ladder.filter fun r => r.x ≤ maxX ∧ r.y ≤ maxY :=
    List.take_of_length_le (List.length_filter_le ..)
  unfold standardTimings
  dsimp only
  rw [htake]
  cases hrung : (ladder.filter fun r => r.x ≤ maxX ∧ r.y ≤ maxY)[i]? with
  | some r =>
    have hmem := List.mem_of_mem_filter (List.mem_of_getElem? hrung)
    have hlt := (List.getElem?_eq_some_iff.mp hrung).1
    refine ⟨setStandardTiming r.x r.aspect 60, ?_, ladder_readable r hmem⟩
    rw [List.getElem?_append_left (by simpa using hlt), List.getElem?_map, hrung]
    rfl
  | none =>
    have hle := List.getElem?_eq_none_iff.mp hrung
    refine ⟨(0x01, 0x01), ?_, rfl⟩
    rw [List.getElem?_append_right (by simpa using hle), List.getElem?_replicate, if_pos]
    simp only [List.length_map]
    omega

lemma any_standard (maxX maxY w h : Nat) :
    (∃ i < 8, ∃ p, (standardTimings maxX maxY)[i]? = some p ∧ standardSize p = some (w, h)) ↔
      (w, h) ∈ ladder.map (fun r => (r.x, r.y)) ∧ Fits maxX maxY w h := by
  have hlist : (w, h) ∈ (ladder.filter fun r => r.x ≤ maxX ∧ r.y ≤ maxY).map (fun r => (r.x, r.y)) ↔
      (w, h) ∈ ladder.map (fun r => (r.x, r.y)) ∧ Fits maxX maxY w h := by
    simp only [List.mem_map, List.mem_filter, decide_eq_true_eq, Prod.mk.injEq]
    constructor
    · rintro ⟨r, ⟨hr, hfits⟩, rfl, rfl⟩
      exact ⟨⟨r, hr, rfl, rfl⟩, hfits⟩
    · rintro ⟨⟨r, hr, rfl, rfl⟩, hfits⟩
      exact ⟨r, ⟨hr, hfits⟩, rfl, rfl⟩
  rw [← hlist, List.mem_iff_getElem?]
  simp only [List.getElem?_map]
  constructor
  · rintro ⟨i, hi, p, hp, hsize⟩
    obtain ⟨p', hp', hsize'⟩ := standardSlot maxX maxY hi
    rw [hp, Option.some.injEq] at hp'
    subst hp'
    exact ⟨i, hsize' ▸ hsize⟩
  · rintro ⟨i, hrung⟩
    have hi : i < 8 := by
      obtain ⟨r, hr, -⟩ := Option.map_eq_some_iff.mp hrung
      exact (List.getElem?_eq_some_iff.mp hr).1.trans_le (List.length_filter_le ..)
    obtain ⟨p, hp, hsize⟩ := standardSlot maxX maxY hi
    exact ⟨i, hi, p, hp, hsize.trans hrung⟩

/-! ## Timings in full -/

lemma high_nibble {n : Nat} (h : n < 16) : (UInt8.ofNat (n <<< 4 ||| 0) &&& 0xf0).toNat <<< 4 = 256 * n := by
  interval_cases n <;> rfl

lemma twelve_bits {n : Nat} (h : n ≤ 4095) :
    (UInt8.ofNat n).toNat ||| (UInt8.ofNat ((n >>> 8) <<< 4 ||| 0) &&& 0xf0).toNat <<< 4 = n := by
  have hhigh : n >>> 8 < 16 := by
    rw [Nat.shiftRight_eq_div_pow]
    omega
  have hsplit := Nat.two_pow_add_eq_or_of_lt (Nat.mod_lt n (by decide : 0 < 2 ^ 8)) (n >>> 8)
  rw [high_nibble hhigh, UInt8.toNat_ofNat', Nat.or_comm]
  rw [Nat.shiftRight_eq_div_pow] at hsplit ⊢
  exact hsplit.symm.trans (Nat.div_add_mod n (2 ^ 8))

/-- **A size in full is read as it is written.** -/
lemma timingSize_detailed {d : Block} {x y hz : Nat} (hx : x ≤ 4095) (hy : y ≤ 4095)
    (hd : ∀ j < 18, d j = (buildDetailedTiming x y hz).getD j 0) : detailedTimingSize d = (x, y) := by
  unfold detailedTimingSize
  rw [hd 2 (by decide), hd 4 (by decide), hd 5 (by decide), hd 7 (by decide)]
  exact Prod.ext (twelve_bits hx) (twelve_bits hy)

lemma clock_detailed {d : Block} {x y hz : Nat} (hclock : pixelClock x y hz ≠ 0)
    (hd : ∀ j < 18, d j = (buildDetailedTiming x y hz).getD j 0) : d 0 ≠ 0 ∨ d 1 ≠ 0 := by
  rw [hd 0 (by decide), hd 1 (by decide)]
  show UInt8.ofNat (min (pixelClock x y hz) 0xffff) ≠ 0 ∨ UInt8.ofNat (min (pixelClock x y hz) 0xffff >>> 8) ≠ 0
  rw [Nat.shiftRight_eq_div_pow, ne_eq, ne_eq, ← UInt8.toNat_inj, ← UInt8.toNat_inj, UInt8.toNat_ofNat',
    UInt8.toNat_ofNat', UInt8.toNat_zero]
  omega

lemma descriptor_detailed {d : Block} {x y hz : Nat} (hx : x ≤ 4095) (hy : y ≤ 4095) (hclock : pixelClock x y hz ≠ 0)
    (hd : ∀ j < 18, d j = (buildDetailedTiming x y hz).getD j 0) (w h : Nat) :
    descriptorDeclares d w h = true ↔ (x, y) = (w, h) := by
  unfold descriptorDeclares
  rw [if_pos (clock_detailed hclock hd), timingSize_detailed hx hy hd, beq_iff_eq]

lemma descriptor_et3 {d : Block} {maxX maxY : Nat} (hd : ∀ j < 18, d j = (buildEt3 maxX maxY).getD j 0) (w h : Nat) :
    descriptorDeclares d w h = true ↔
      (w, h) ∈ establishedTimings3.map (fun t => (t.x, t.y)) ∧ Fits maxX maxY w h := by
  have htable : ∀ t ∈ establishedTimings3, t.byte < et3BitmapBytes ∧ t.bit < 8 := by decide
  have hbyte : ∀ byte < et3BitmapBytes, d (et3BitmapOffset + byte) =
      (setTimingBits (List.replicate et3BitmapBytes 0) establishedTimings3 maxX maxY).getD byte 0 := by
    intro byte hbyte
    have hlen : byte < 6 := hbyte
    rw [hd _ (by unfold et3BitmapOffset; omega)]
    unfold buildEt3
    rw [List.append_assoc, List.getD_append_right _ _ _ _ (Nat.le_add_right 6 byte), List.getD_append]
    · have hplace : et3BitmapOffset + byte - [0, 0, 0, et3Tag, 0, et3Revision].length = byte :=
        Nat.add_sub_cancel_left 6 byte
      rw [hplace]
    · simp [et3BitmapOffset, et3BitmapBytes, hlen]
  have hhead : d 0 = 0 ∧ d 1 = 0 ∧ d 3 = et3Tag ∧ d 4 = 0 :=
    ⟨hd 0 (by decide), hd 1 (by decide), hd 3 (by decide), hd 4 (by decide)⟩
  rw [← any_entry distinct_established3 htable]
  unfold descriptorDeclares
  rw [if_neg (by simp [hhead.1, hhead.2.1]), hhead.2.2.1, hhead.2.2.2, beq_self_eq_true, beq_self_eq_true,
    Bool.true_and, Bool.true_and, List.any_eq_true, List.any_eq_true]
  refine exists_congr fun t => and_congr_right fun ht => ?_
  have hlt := (htable t ht).1
  rw [hbyte t.byte hlt, decide_eq_true hlt, Bool.and_true]

/-- A descriptor of no size (`0x10` is its tag). -/
def IsDummy (b : Block) (start : Nat) : Prop := ∀ j < 18, b (start + j) = if j = 3 then 0x10 else 0

instance (b : Block) (start : Nat) : Decidable (IsDummy b start) :=
  inferInstanceAs (Decidable (∀ j < 18, b (start + j) = if j = 3 then 0x10 else 0))

lemma descriptor_spare {b d : Block} {start hz : Nat} {mode : Option (Nat × Nat)} (hdummy : IsDummy b start)
    (hmode : ∀ m ∈ mode, m ∈ detailOnlyModes) (hhz : 1 ≤ hz) (hd : ∀ j < 18, d j = spareByte b start mode hz j)
    (w h : Nat) :
    descriptorDeclares d w h = true ↔ mode = some (w, h) := by
  cases mode with
  | none =>
    have hbyte : ∀ j < 18, d j = if j = 3 then 0x10 else 0 := fun j hj => (hd j hj).trans (hdummy j hj)
    have htag : d 3 ≠ et3Tag := by
      rw [hbyte 3 (by decide)]
      decide
    unfold descriptorDeclares
    rw [if_neg (by simp [hbyte 0 (by decide), hbyte 1 (by decide)]), beq_false_of_ne htag]
    simp
  | some m =>
    have hlarge : ∀ m ∈ detailOnlyModes, m.1 ≤ 4095 ∧ m.2 ≤ 4095 ∧ pixelClock m.1 m.2 1 ≠ 0 := by decide
    obtain ⟨hx, hy, hone⟩ := hlarge m (hmode m rfl)
    have hclock : pixelClock m.1 m.2 hz ≠ 0 := by
      have hle : pixelClock m.1 m.2 1 ≤ pixelClock m.1 m.2 hz := Nat.div_le_div_right (Nat.mul_le_mul_left _ hhz)
      omega
    rw [descriptor_detailed hx hy hclock hd, Option.some.injEq]

/-! ## What a block declares -/

/-- **A size that the monitor shows**, other than the preferred one: it is in a list, and fits. -/
def Listed (x y maxX maxY w h : Nat) : Prop :=
  Fits maxX maxY w h ∧
    ((w, h) ∈ establishedTimings.map (fun t => (t.x, t.y)) ∨ (w, h) ∈ ladder.map (fun r => (r.x, r.y)) ∨
      (w, h) ∈ establishedTimings3.map (fun t => (t.x, t.y)) ∨ (w, h) ∈ spareModes x y maxX maxY)

section Declared

variable {base : Block} {x y maxX maxY hz : Nat}

lemma established_built (w h : Nat) :
    (declaredTimings.any fun t =>
        t.x == w && t.y == h && hasBit (edidBuildFromBase base x y maxX maxY hz t.byte) t.bit) = true ↔
      (w, h) ∈ establishedTimings.map (fun t => (t.x, t.y)) ∧ Fits (max maxX x) (max maxY y) w h := by
  have htable : ∀ t ∈ establishedTimings, t.byte < 3 ∧ t.bit < 8 := by decide
  have hbyte : ∀ byte < 3, edidBuildFromBase base x y maxX maxY hz (0x23 + byte) =
      (setTimingBits (List.replicate 3 0) establishedTimings (max maxX x) (max maxY y)).getD byte 0 := by
    intro byte hlt
    rw [built_below (by omega), putSpares_low (by unfold descThird; omega), putTimings_established hlt]
    rfl
  rw [← any_entry distinct_established htable, declaredTimings_eq, List.any_map, List.any_eq_true, List.any_eq_true]
  refine exists_congr fun t => and_congr_right fun ht => ?_
  rw [Function.comp_apply, hbyte t.byte (htable t ht).1]

lemma standard_built (w h : Nat) :
    ((List.range 8).any fun i => standardSize (edidBuildFromBase base x y maxX maxY hz (0x26 + 2 * i),
        edidBuildFromBase base x y maxX maxY hz (0x26 + 2 * i + 1)) == some (w, h)) = true ↔
      (w, h) ∈ ladder.map (fun r => (r.x, r.y)) ∧ Fits (max maxX x) (max maxY y) w h := by
  have hbyte : ∀ j < 16, edidBuildFromBase base x y maxX maxY hz (0x26 + j) =
      ((standardTimings (max maxX x) (max maxY y)).flatMap fun p => [p.1, p.2]).getD j 0 := fun j hj => by
    rw [built_below (by omega), putSpares_low (by unfold descThird; omega), putTimings_standard hj]
  have hslot : ∀ i < 8, ∀ p, (standardTimings (max maxX x) (max maxY y))[i]? = some p →
      (edidBuildFromBase base x y maxX maxY hz (0x26 + 2 * i),
        edidBuildFromBase base x y maxX maxY hz (0x26 + 2 * i + 1)) = p := fun i hi p hp => by
    obtain ⟨hfirst, hsecond⟩ := getD_pairs _ _ _ hp
    rw [Nat.add_assoc, hbyte _ (by omega), hbyte _ (by omega), hfirst, hsecond]
  rw [← any_standard, List.any_eq_true]
  refine exists_congr fun i => ?_
  rw [List.mem_range, beq_iff_eq]
  refine and_congr_right fun hi => ?_
  obtain ⟨p, hp, -⟩ := standardSlot (max maxX x) (max maxY y) hi
  rw [hslot i hi p hp]
  constructor
  · exact fun hsize => ⟨p, hp, hsize⟩
  · rintro ⟨p', hp', hsize⟩
    rw [hp, Option.some.injEq] at hp'
    rwa [hp']

lemma mem_spareModes {m : Nat × Nat} : m ∈ spareModes x y maxX maxY ↔
    (spareModes x y maxX maxY)[0]? = some m ∨ (spareModes x y maxX maxY)[1]? = some m := by
  have hlen : (spareModes x y maxX maxY).length ≤ 2 := List.length_take_le ..
  generalize spareModes x y maxX maxY = l at hlen
  match l with
  | [] => simp
  | [a] => simp [eq_comm]
  | [a, b] => simp [eq_comm]
  | _ :: _ :: _ :: _ =>
    simp only [List.length_cons] at hlen
    omega

lemma spareModes_sub {m : Nat × Nat} (hm : m ∈ spareModes x y maxX maxY) :
    m ∈ detailOnlyModes ∧ Fits maxX maxY m.1 m.2 := by
  have hfilter := List.mem_filter.mp (List.mem_of_mem_take hm)
  have hfits := of_decide_eq_true hfilter.2
  exact ⟨hfilter.1, hfits.1, hfits.2.1⟩

lemma descriptors_built (hthird : IsDummy base descThird) (hfourth : IsDummy base descFourth) (hx : x ≤ 4095)
    (hy : y ≤ 4095) (hclock : pixelClock x y hz ≠ 0) (w h : Nat) :
    ((List.range 4).any fun i => descriptorDeclares
        (fun j => edidBuildFromBase base x y maxX maxY hz (descPreferred + i * 18 + j)) w h) = true ↔
      (x, y) = (w, h) ∨
        (w, h) ∈ establishedTimings3.map (fun t => (t.x, t.y)) ∧ Fits (max maxX x) (max maxY y) w h ∨
          (w, h) ∈ spareModes x y (max maxX x) (max maxY y) := by
  have hhz : 1 ≤ hz := by
    by_contra hzero
    rw [show hz = 0 by omega] at hclock
    exact hclock (by simp [pixelClock])
  have hmodes : ∀ i m, m ∈ (spareModes x y (max maxX x) (max maxY y))[i]? → m ∈ detailOnlyModes := fun i m hm =>
    (spareModes_sub (List.mem_of_getElem? hm)).1
  have hdummy : ∀ start, descThird ≤ start → IsDummy base start →
      IsDummy (putTimings base x y (max maxX x) (max maxY y) hz) start := fun start hstart hbase j hj => by
    rw [putTimings_high (by omega), hbase j hj]
  have hfirst := fun j (hj : j < 18) => show edidBuildFromBase base x y maxX maxY hz (descPreferred + j) = _ by
    rw [built_below (by unfold descPreferred; omega), putSpares_low (by unfold descPreferred descThird; omega),
      putTimings_preferred hj]
  have hsecond := fun j (hj : j < 18) => show edidBuildFromBase base x y maxX maxY hz (descSecond + j) = _ by
    rw [built_below (by unfold descSecond; omega), putSpares_low (by unfold descSecond descThird; omega),
      putTimings_second hj]
  have hspare := fun j (hj : j < 18) => show edidBuildFromBase base x y maxX maxY hz (descThird + j) = _ by
    rw [built_below (by unfold descThird; omega), putSpares_third hj]
  have hlast := fun j (hj : j < 18) => show edidBuildFromBase base x y maxX maxY hz (descFourth + j) = _ by
    rw [built_below (by unfold descFourth; omega), putSpares_fourth hj]
  have hone := descriptor_detailed hx hy hclock hfirst w h
  have htwo := descriptor_et3 hsecond w h
  have hthree := descriptor_spare (hdummy _ le_rfl hthird) (hmodes 0) hhz hspare w h
  have hfour := descriptor_spare (hdummy _ (by decide) hfourth) (hmodes 1) hhz hlast w h
  rw [mem_spareModes, ← hthree, ← hfour, ← htwo, ← hone]
  simp only [List.any_eq_true, List.mem_range]
  constructor
  · rintro ⟨i, hi, hdeclared⟩
    interval_cases i
    · exact Or.inl hdeclared
    · exact Or.inr (Or.inl hdeclared)
    · exact Or.inr (Or.inr (Or.inl hdeclared))
    · exact Or.inr (Or.inr (Or.inr hdeclared))
  · rintro (hdeclared | hdeclared | hdeclared | hdeclared)
    · exact ⟨0, by decide, hdeclared⟩
    · exact ⟨1, by decide, hdeclared⟩
    · exact ⟨2, by decide, hdeclared⟩
    · exact ⟨3, by decide, hdeclared⟩

lemma Listed.ne_zero {w h : Nat} (hlisted : Listed x y maxX maxY w h) : w ≠ 0 ∧ h ≠ 0 := by
  have hlists : ∀ m ∈ establishedTimings.map (fun t => (t.x, t.y)) ++ ladder.map (fun r => (r.x, r.y)) ++
      establishedTimings3.map (fun t => (t.x, t.y)) ++ detailOnlyModes, m.1 ≠ 0 ∧ m.2 ≠ 0 := by decide
  refine hlists (w, h) ?_
  simp only [List.mem_append]
  rcases hlisted.2 with hmem | hmem | hmem | hmem
  · exact Or.inl (Or.inl (Or.inl hmem))
  · exact Or.inl (Or.inl (Or.inr hmem))
  · exact Or.inl (Or.inr hmem)
  · exact Or.inr (spareModes_sub hmem).1

/-- **The monitor advertises what the machine can show**: a block made from a valid one with two descriptors to spare
is valid, and declares the preferred mode, and of the other sizes those of the lists that fit. -/
theorem declares_built (base : Block) (x y maxX maxY hz : Nat) (hvalid : edidBlockIsValid base = true)
    (hthird : IsDummy base descThird) (hfourth : IsDummy base descFourth) (hx : 1 ≤ x ∧ x ≤ 4095)
    (hy : 1 ≤ y ∧ y ≤ 4095) (hclock : pixelClock x y hz ≠ 0) :
    edidBlockIsValid (edidBuildFromBase base x y maxX maxY hz) = true ∧
      edidBlockDeclares (edidBuildFromBase base x y maxX maxY hz) x y = true ∧
        ∀ w h, (w, h) ≠ (x, y) →
          (edidBlockDeclares (edidBuildFromBase base x y maxX maxY hz) w h = true ↔
            Listed x y (max maxX x) (max maxY y) w h) := by
  have hall : ∀ w h, edidBlockDeclares (edidBuildFromBase base x y maxX maxY hz) w h = true ↔
      (w ≠ 0 ∧ h ≠ 0) ∧ (Listed x y (max maxX x) (max maxY y) w h ∨ (x, y) = (w, h)) := fun w h => by
    have hfits : (w, h) ∈ spareModes x y (max maxX x) (max maxY y) → Fits (max maxX x) (max maxY y) w h :=
      fun hm => (spareModes_sub hm).2
    unfold edidBlockDeclares Listed
    rw [Bool.and_eq_true, Bool.and_eq_true, Bool.or_eq_true, Bool.or_eq_true, bne_iff_ne, bne_iff_ne,
      established_built, standard_built, descriptors_built hthird hfourth hx.2 hy.2 hclock]
    refine and_congr_right fun _ => ⟨?_, ?_⟩
    · rintro ((⟨hmem, hin⟩ | ⟨hmem, hin⟩) | heq | ⟨hmem, hin⟩ | hmem)
      · exact Or.inl ⟨hin, Or.inl hmem⟩
      · exact Or.inl ⟨hin, Or.inr (Or.inl hmem)⟩
      · exact Or.inr heq
      · exact Or.inl ⟨hin, Or.inr (Or.inr (Or.inl hmem))⟩
      · exact Or.inl ⟨hfits hmem, Or.inr (Or.inr (Or.inr hmem))⟩
    · rintro (⟨hin, hmem | hmem | hmem | hmem⟩ | heq)
      · exact Or.inl (Or.inl ⟨hmem, hin⟩)
      · exact Or.inl (Or.inr ⟨hmem, hin⟩)
      · exact Or.inr (Or.inr (Or.inl ⟨hmem, hin⟩))
      · exact Or.inr (Or.inr (Or.inr hmem))
      · exact Or.inr (Or.inl heq)
  refine ⟨valid_built hvalid x y maxX maxY hz, (hall x y).mpr ⟨⟨by omega, by omega⟩, Or.inr rfl⟩, fun w h hne => ?_⟩
  rw [hall w h]
  constructor
  · rintro ⟨-, hlisted | heq⟩
    · exact hlisted
    · exact absurd heq.symm hne
  · exact fun hlisted => ⟨hlisted.ne_zero, Or.inl hlisted⟩

def romBlock : Block := fun i =>
  if 1 ≤ i ∧ i ≤ 6 then 0xff
  else if i = 18 then 1
  else if i = 0x5d ∨ i = 0x6f then 0x10
  else if i = 0x7f then 0xe5
  else 0

theorem declares_built_rom :
    edidBlockDeclares (edidBuildFromBase romBlock 1280 1024 2560 1440 60) 1280 1024 = true ∧
      (edidBlockDeclares (edidBuildFromBase romBlock 1280 1024 2560 1440 60) 2560 1440 = true ↔
        Listed 1280 1024 2560 1440 2560 1440) := by
  have hvalid : edidBlockIsValid romBlock = true := by decide +kernel
  have hbuilt :=
    declares_built romBlock 1280 1024 2560 1440 60 hvalid (by decide) (by decide) (by decide) (by decide) (by decide)
  exact ⟨hbuilt.2.1, hbuilt.2.2 2560 1440 (by decide)⟩

end Declared

end RpcEmu.Gfx
