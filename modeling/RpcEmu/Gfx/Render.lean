import RpcEmu.Gfx.Frame
import RpcEmu.Lib.Strokes

/-!
# Rectangles

`gfxcard_render` of `gfxcard.c`: a rectangle of the framestore copied to another, or filled through the pattern.

* **A row is a stroke.**  Rows keep apart, since no row of the display is longer than the stride (`row_apart`).  So
  what an operation comes to is settled by what each row finds.
* **Copying.**  The rows are walked away from the overlap: a row that is still to be copied from is never one that
  was copied to (`copy_spares`).
* **Bounds.**  The display lies inside the framestore, and both rectangles inside the display.
-/

namespace RpcEmu.Gfx

open Strokes
open Mmu (gfxcardFbSize)

def gfxcardRenderCopy : UInt32 := 1

def gfxcardRenderFill : UInt32 := 2

def gfxcardDirtyShift : Nat := 12

structure Framestore where
  bytes : Nat → UInt8
  dirty : Nat → Bool

/-- `gfxcard_mark_dirty_range`. -/
def gfxcardMarkDirtyRange (offset len : Nat) (dirty : Nat → Bool) : Nat → Bool :=
  if len = 0 ∨ gfxcardFbSize.toNat ≤ offset then dirty
  else
    let len := if gfxcardFbSize.toNat - offset < len then gfxcardFbSize.toNat - offset else len
    fun page => (offset >>> gfxcardDirtyShift ≤ page && page ≤ (offset + len - 1) >>> gfxcardDirtyShift) || dirty page

/-- `gfxcard_render_fits`, at 64 bits. -/
def gfxcardRenderFits (g : GfxCard) (x y w h : UInt32) : Bool :=
  x.toNat + w.toNat ≤ g.width.toNat && y.toNat + h.toNat ≤ g.height.toNat

/-- `gfxcard_render_row`: where it is in the framestore. -/
def gfxcardRenderRow (g : GfxCard) (row : UInt32) : Nat := g.start.toNat + row.toNat * g.stride.toNat

/-- `memmove`. -/
def memmove (m : Nat → UInt8) (dst src n : Nat) : Nat → UInt8 :=
  fun a => if dst ≤ a ∧ a < dst + n then m (src + (a - dst)) else m a

section Render

variable (g : GfxCard)

/-- `bytes_per_pixel`. -/
def GfxCard.bytesPerPixel : Nat := (g.bpp / 8).toNat

def copyRow (m : Nat → UInt8) (row : Nat) : Nat → UInt8 :=
  memmove m (gfxcardRenderRow g (g.renderY + UInt32.ofNat row) + g.renderX.toNat * g.bytesPerPixel)
    (gfxcardRenderRow g (g.renderSrcY + UInt32.ofNat row) + g.renderSrcX.toNat * g.bytesPerPixel)
    (g.renderW.toNat * g.bytesPerPixel)

def patternByte (word : UInt32) (offset : Nat) : UInt8 := (word >>> UInt32.ofNat (8 * (offset &&& 3))).toUInt8

def fillRow (m : Nat → UInt8) (row : Nat) : Nat → UInt8 :=
  let pat := (g.renderY + UInt32.ofNat row) &&& 7
  let ora := g.renderPattern.getD (pat * 2).toNat 0
  let eor := g.renderPattern.getD (pat * 2 + 1).toNat 0
  let line := gfxcardRenderRow g (g.renderY + UInt32.ofNat row)
  (List.range (g.renderW.toNat * g.bytesPerPixel)).foldl (fun m i =>
    let offset := g.renderX.toNat * g.bytesPerPixel + i
    Function.update m (line + offset)
      ((m (line + offset) ||| patternByte ora offset) ^^^ patternByte eor offset)) m

/-- `gfxcard_render`. -/
def gfxcardRender (op : UInt32) (f : Framestore) : Framestore :=
  match gfxcardFrame g with
  | none => f
  | some _ =>
    if g.renderW = 0 ∨ g.renderH = 0 then f
    else if gfxcardRenderFits g g.renderX g.renderY g.renderW g.renderH = false then f
    else
      let f := { f with
        dirty := gfxcardMarkDirtyRange (g.start.toNat + g.renderY.toNat * g.stride.toNat)
          (g.renderH.toNat * g.stride.toNat) f.dirty }
      if op = gfxcardRenderCopy then
        if gfxcardRenderFits g g.renderSrcX g.renderSrcY g.renderW g.renderH = false then f
        else if g.renderSrcY < g.renderY then
          { f with bytes := (List.range g.renderH.toNat).reverse.foldl (copyRow g) f.bytes }
        else { f with bytes := (List.range g.renderH.toNat).foldl (copyRow g) f.bytes }
      else if op ≠ gfxcardRenderFill then f
      else { f with bytes := (List.range g.renderH.toNat).foldl (fillRow g) f.bytes }

end Render

/-! ## Rows of the display -/

def GfxCard.pixelAt (g : GfxCard) (x y : Nat) : Nat := g.start.toNat + y * g.stride.toNat + x * g.bytesPerPixel

/-- The address is one of the `w` pixels at `(x, y)`. -/
def GfxCard.InRow (g : GfxCard) (x y w a : Nat) : Prop :=
  g.pixelAt x y ≤ a ∧ a < g.pixelAt x y + w * g.bytesPerPixel

instance (g : GfxCard) (x y w a : Nat) : Decidable (g.InRow x y w a) := inferInstanceAs (Decidable (_ ∧ _))

/-- The picture lies in the framestore. -/
structure GfxCard.Displays (g : GfxCard) : Prop where
  height_le : g.height.toNat ≤ 1440
  row : g.width.toNat * g.bytesPerPixel ≤ g.stride.toNat
  inside : g.start.toNat + g.stride.toNat * (g.height.toNat - 1) + g.width.toNat * g.bytesPerPixel ≤
    gfxcardFbSize.toNat

section Rows

variable {g : GfxCard} {x y w x' y' w' a : Nat}

lemma displays_of_gfxcardFrame {f : GfxCardFrame} (h : gfxcardFrame g = some f) : g.Displays := by
  have hshown := shown_of_gfxcardFrame h
  have hbytes : g.bytesPerPixel = g.bpp.toNat / 8 := UInt32.toNat_div g.bpp 8
  unfold gfxcardFrame at h
  split_ifs at h
  obtain rfl := Option.some.inj h
  exact ⟨hshown.height_le, by rw [hbytes]; exact hshown.row, by rw [hbytes]; exact hshown.inside⟩

lemma GfxCard.Displays.inRow (hg : g.Displays) (hx : x + w ≤ g.width.toNat) (ha : g.InRow x y w a) :
    g.start.toNat + y * g.stride.toNat ≤ a ∧ a < g.start.toNat + (y + 1) * g.stride.toNat := by
  obtain ⟨hlow, hhigh⟩ := ha
  have hend : (x + w) * g.bytesPerPixel ≤ g.stride.toNat := le_trans (Nat.mul_le_mul_right _ hx) hg.row
  rw [Nat.add_mul] at hend
  unfold GfxCard.pixelAt at hlow hhigh
  rw [Nat.add_mul, Nat.one_mul]
  omega

/-- **Rows keep apart.** -/
lemma GfxCard.Displays.row_apart (hg : g.Displays) (hx : x + w ≤ g.width.toNat) (hx' : x' + w' ≤ g.width.toNat)
    (hne : y ≠ y') (ha : g.InRow x y w a) : ¬ g.InRow x' y' w' a := by
  intro ha'
  obtain ⟨hlow, hhigh⟩ := hg.inRow hx ha
  obtain ⟨hlow', hhigh'⟩ := hg.inRow hx' ha'
  rcases Nat.lt_or_gt_of_ne hne with hlt | hgt
  · have hmul : (y + 1) * g.stride.toNat ≤ y' * g.stride.toNat := Nat.mul_le_mul_right _ hlt
    omega
  · have hmul : (y' + 1) * g.stride.toNat ≤ y * g.stride.toNat := Nat.mul_le_mul_right _ hgt
    omega

lemma GfxCard.Displays.inside_row (hg : g.Displays) (hx : x + w ≤ g.width.toNat) (hy : y < g.height.toNat)
    (ha : g.InRow x y w a) : a < gfxcardFbSize.toNat := by
  have hinside := hg.inside
  have hrow : y * g.stride.toNat ≤ g.stride.toNat * (g.height.toNat - 1) := by
    rw [Nat.mul_comm]
    exact Nat.mul_le_mul_left _ (by omega)
  have hend : (x + w) * g.bytesPerPixel ≤ g.width.toNat * g.bytesPerPixel := Nat.mul_le_mul_right _ hx
  rw [Nat.add_mul] at hend
  obtain ⟨-, hhigh⟩ := ha
  unfold GfxCard.pixelAt at hhigh
  omega

lemma renderRow_eq {y : UInt32} {row : Nat} (h : y.toNat + row < 2 ^ 32) (x : Nat) :
    gfxcardRenderRow g (y + UInt32.ofNat row) + x * g.bytesPerPixel = g.pixelAt x (y.toNat + row) := by
  have hrow : (y + UInt32.ofNat row).toNat = y.toNat + row := by
    have hsmall : (UInt32.ofNat row).toNat = row := UInt32.toNat_ofNat_of_lt' (lt_of_le_of_lt (Nat.le_add_left _ _) h)
    rw [UInt32.toNat_add, hsmall, Nat.mod_eq_of_lt h]
  rw [gfxcardRenderRow, hrow, GfxCard.pixelAt]

end Rows

/-! ## What an operation is to do -/

/-- The operation is one the card carries out. -/
structure GfxCard.Carries (g : GfxCard) (op : UInt32) : Prop where
  shown : (gfxcardFrame g).isSome
  some_pixels : g.renderW ≠ 0 ∧ g.renderH ≠ 0
  fits : gfxcardRenderFits g g.renderX g.renderY g.renderW g.renderH = true
  known : op = gfxcardRenderCopy ∨ op = gfxcardRenderFill
  source_fits : op = gfxcardRenderCopy →
    gfxcardRenderFits g g.renderSrcX g.renderSrcY g.renderW g.renderH = true

def GfxCard.patternOra (g : GfxCard) (y : Nat) : UInt32 := g.renderPattern.getD (2 * (y % 8)) 0

def GfxCard.patternEor (g : GfxCard) (y : Nat) : UInt32 := g.renderPattern.getD (2 * (y % 8) + 1) 0

section Strokes

variable (g : GfxCard) (m₀ : Nat → UInt8)

def copyStroke (row : Nat) : Stroke Nat UInt8 where
  covers a := decide (g.InRow g.renderX.toNat (g.renderY.toNat + row) g.renderW.toNat a)
  value m a := m (g.pixelAt g.renderSrcX.toNat (g.renderSrcY.toNat + row) +
    (a - g.pixelAt g.renderX.toNat (g.renderY.toNat + row)))
  meant a := m₀ (g.pixelAt g.renderSrcX.toNat (g.renderSrcY.toNat + row) +
    (a - g.pixelAt g.renderX.toNat (g.renderY.toNat + row)))

def patterned (y a : Nat) (b : UInt8) : UInt8 :=
  (b ||| patternByte (g.patternOra y) (a - (g.start.toNat + y * g.stride.toNat))) ^^^
    patternByte (g.patternEor y) (a - (g.start.toNat + y * g.stride.toNat))

def fillStroke (row : Nat) : Stroke Nat UInt8 where
  covers a := decide (g.InRow g.renderX.toNat (g.renderY.toNat + row) g.renderW.toNat a)
  value m a := patterned g (g.renderY.toNat + row) a (m a)
  meant a := patterned g (g.renderY.toNat + row) a (m₀ a)

end Strokes

section Operations

variable {g : GfxCard} {m m₀ : Nat → UInt8} {row : Nat}

lemma copyRow_eq (hy : g.renderY.toNat + row < 2 ^ 32) (hsrc : g.renderSrcY.toNat + row < 2 ^ 32) :
    copyRow g m row = (copyStroke g m₀ row).draw m := by
  funext a
  rw [copyRow, renderRow_eq hy, renderRow_eq hsrc, memmove, Stroke.draw]
  by_cases hin : g.InRow g.renderX.toNat (g.renderY.toNat + row) g.renderW.toNat a
  · exact (if_pos hin).trans (if_pos (decide_eq_true hin)).symm
  · exact (if_neg hin).trans (if_neg (Bool.eq_false_iff.mp (decide_eq_false hin))).symm

lemma foldl_update_range (base n : Nat) (change : Nat → UInt8 → UInt8) (m : Nat → UInt8) :
    (List.range n).foldl (fun m i => Function.update m (base + i) (change i (m (base + i)))) m =
      fun a => if base ≤ a ∧ a < base + n then change (a - base) (m a) else m a := by
  induction n with
  | zero =>
    funext a
    rw [if_neg (by omega)]
    rfl
  | succ n ih =>
    rw [List.range_succ, List.foldl_append, ih]
    funext a
    simp only [List.foldl_cons, List.foldl_nil, Function.update_apply]
    by_cases heq : a = base + n
    · rw [if_pos heq, if_neg (by omega), if_pos (by omega), heq, Nat.add_sub_cancel_left]
    · rw [if_neg heq]
      by_cases hin : base ≤ a ∧ a < base + n
      · rw [if_pos hin, if_pos (by omega)]
      · rw [if_neg hin, if_neg (by omega)]

lemma fillRow_eq (hy : g.renderY.toNat + row < 2 ^ 32) : fillRow g m row = (fillStroke g m₀ row).draw m := by
  have hsmall : (UInt32.ofNat row).toNat = row := UInt32.toNat_ofNat_of_lt' (lt_of_le_of_lt (Nat.le_add_left _ _) hy)
  have hrow : (g.renderY + UInt32.ofNat row).toNat = g.renderY.toNat + row := by
    rw [UInt32.toNat_add, hsmall, Nat.mod_eq_of_lt hy]
  have hpat : ((g.renderY + UInt32.ofNat row) &&& 7).toNat = (g.renderY.toNat + row) % 8 := by
    rw [UInt32.toNat_and, hrow]
    exact Nat.and_two_pow_sub_one_eq_mod _ 3
  have hora : (((g.renderY + UInt32.ofNat row) &&& 7) * 2).toNat = 2 * ((g.renderY.toNat + row) % 8) := by
    rw [UInt32.toNat_mul, hpat]
    have htwo : (2 : UInt32).toNat = 2 := rfl
    rw [htwo]
    omega
  have heor : (((g.renderY + UInt32.ofNat row) &&& 7) * 2 + 1).toNat = 2 * ((g.renderY.toNat + row) % 8) + 1 := by
    rw [UInt32.toNat_add, hora, UInt32.toNat_one]
    omega
  have hline : gfxcardRenderRow g (g.renderY + UInt32.ofNat row) =
      g.start.toNat + (g.renderY.toNat + row) * g.stride.toNat := by rw [gfxcardRenderRow, hrow]
  unfold fillRow
  dsimp only
  rw [hora, heor, hline]
  have horaWord : g.renderPattern.getD (2 * ((g.renderY.toNat + row) % 8)) 0 = g.patternOra (g.renderY.toNat + row) :=
    rfl
  have heorWord : g.renderPattern.getD (2 * ((g.renderY.toNat + row) % 8) + 1) 0 =
      g.patternEor (g.renderY.toNat + row) := rfl
  rw [horaWord, heorWord]
  simp only [← Nat.add_assoc]
  rw [foldl_update_range
    (g.start.toNat + (g.renderY.toNat + row) * g.stride.toNat + g.renderX.toNat * g.bytesPerPixel)
    (g.renderW.toNat * g.bytesPerPixel) fun i b =>
      (b ||| patternByte (g.patternOra (g.renderY.toNat + row)) (g.renderX.toNat * g.bytesPerPixel + i)) ^^^
        patternByte (g.patternEor (g.renderY.toNat + row)) (g.renderX.toNat * g.bytesPerPixel + i)]
  funext a
  rw [Stroke.draw]
  by_cases hin : g.InRow g.renderX.toNat (g.renderY.toNat + row) g.renderW.toNat a
  · have hoff : g.renderX.toNat * g.bytesPerPixel + (a - (g.start.toNat + (g.renderY.toNat + row) * g.stride.toNat +
        g.renderX.toNat * g.bytesPerPixel)) = a - (g.start.toNat + (g.renderY.toNat + row) * g.stride.toNat) := by
      have hlow := hin.1
      unfold GfxCard.pixelAt at hlow
      omega
    rw [hoff]
    exact (if_pos hin).trans (if_pos (decide_eq_true hin)).symm
  · exact (if_neg hin).trans (if_neg (Bool.eq_false_iff.mp (decide_eq_false hin))).symm

lemma copy_spares (hg : g.Displays) {r s : Nat} (hx : g.renderX.toNat + g.renderW.toNat ≤ g.width.toNat)
    (hsrc : g.renderSrcX.toNat + g.renderW.toNat ≤ g.width.toNat)
    (hne : g.renderSrcY.toNat + s ≠ g.renderY.toNat + r) : Spares (copyStroke g m₀ r) (copyStroke g m₀ s) := by
  intro m hright a ha
  have hin : g.InRow g.renderX.toNat (g.renderY.toNat + s) g.renderW.toNat a := of_decide_eq_true ha
  have hfrom : g.InRow g.renderSrcX.toNat (g.renderSrcY.toNat + s) g.renderW.toNat
      (g.pixelAt g.renderSrcX.toNat (g.renderSrcY.toNat + s) +
        (a - g.pixelAt g.renderX.toNat (g.renderY.toNat + s))) := by
    obtain ⟨hlow, hhigh⟩ := hin
    exact ⟨Nat.le_add_right _ _, by omega⟩
  have hclear := hg.row_apart hsrc hx hne hfrom
  have huncovered : (copyStroke g m₀ r).covers (g.pixelAt g.renderSrcX.toNat (g.renderSrcY.toNat + s) +
      (a - g.pixelAt g.renderX.toNat (g.renderY.toNat + s))) = false := decide_eq_false hclear
  rw [← hright a ha]
  simp only [copyStroke, Stroke.fill] at huncovered ⊢
  rw [if_neg (by rw [huncovered]; decide)]

lemma fill_spares (hg : g.Displays) {r s : Nat} (hx : g.renderX.toNat + g.renderW.toNat ≤ g.width.toNat)
    (hne : s ≠ r) : Spares (fillStroke g m₀ r) (fillStroke g m₀ s) := by
  intro m hright a ha
  have hin : g.InRow g.renderX.toNat (g.renderY.toNat + s) g.renderW.toNat a := of_decide_eq_true ha
  have hclear := hg.row_apart hx hx (fun h => hne (Nat.add_left_cancel h)) hin
  have huncovered : (fillStroke g m₀ r).covers a = false := decide_eq_false hclear
  rw [← hright a ha]
  simp only [fillStroke, Stroke.fill] at huncovered ⊢
  rw [if_neg (by rw [huncovered]; decide)]

lemma drawAll_rows (hg : g.Displays) (hx : g.renderX.toNat + g.renderW.toNat ≤ g.width.toNat)
    {stroke : Nat → Stroke Nat UInt8} {rows : List Nat}
    (hcovers : ∀ r a, (stroke r).covers a = decide (g.InRow g.renderX.toNat (g.renderY.toNat + r) g.renderW.toNat a))
    (hright : ∀ r, Right (stroke r) m) (hspares : (rows.map stroke).Pairwise Spares) (hrows : rows.Nodup) :
    (∀ r ∈ rows, ∀ a, g.InRow g.renderX.toNat (g.renderY.toNat + r) g.renderW.toNat a →
        drawAll (rows.map stroke) m a = (stroke r).meant a) ∧
      ∀ a, (∀ r ∈ rows, ¬ g.InRow g.renderX.toNat (g.renderY.toNat + r) g.renderW.toNat a) →
        drawAll (rows.map stroke) m a = m a := by
  have hapart : (rows.map stroke).Pairwise Apart := by
    refine List.pairwise_map.mpr (hrows.imp fun hne a ha => ?_)
    rw [hcovers] at ha ⊢
    exact decide_eq_false (hg.row_apart hx hx (fun h => hne (Nat.add_left_cancel h)) (of_decide_eq_true ha))
  have hall : AllRight (rows.map stroke) m := by
    refine allRight_of_spares hspares fun s hs => ?_
    obtain ⟨r, -, rfl⟩ := List.mem_map.mp hs
    exact hright r
  have hdrawn := (drawAll_eq_fillAll_iff hapart).mpr hall
  constructor
  · intro r hr a ha
    rw [hdrawn]
    exact fillAll_of_covered hapart (List.mem_map_of_mem hr) (by rw [hcovers]; exact decide_eq_true ha)
  · intro a ha
    refine drawAll_of_uncovered fun s hs => ?_
    obtain ⟨r, hr, rfl⟩ := List.mem_map.mp hs
    rw [hcovers]
    exact decide_eq_false (ha r hr)

lemma foldl_eq_drawAll {draw : (Nat → UInt8) → Nat → Nat → UInt8} {stroke : Nat → Stroke Nat UInt8} {rows : List Nat}
    (h : ∀ r ∈ rows, ∀ m, draw m r = (stroke r).draw m) (m : Nat → UInt8) :
    rows.foldl draw m = drawAll (rows.map stroke) m := by
  induction rows generalizing m with
  | nil => rfl
  | cons r rows ih =>
    rw [List.foldl_cons, List.map_cons, drawAll_cons, h r List.mem_cons_self]
    exact ih (fun s hs => h s (List.mem_cons_of_mem r hs)) _

end Operations

/-! ## The operations -/

section Exact

variable {g : GfxCard} {op : UInt32}

lemma fits_iff {x y w h : UInt32} : gfxcardRenderFits g x y w h = true ↔
    x.toNat + w.toNat ≤ g.width.toNat ∧ y.toNat + h.toNat ≤ g.height.toNat := by
  rw [gfxcardRenderFits, Bool.and_eq_true, decide_eq_true_eq, decide_eq_true_eq]

lemma render_of_not_carries (h : ¬ g.Carries op) (f : Framestore) : (gfxcardRender g op f).bytes = f.bytes := by
  unfold gfxcardRender
  cases hframe : gfxcardFrame g with
  | none => rfl
  | some frame =>
    dsimp only
    split_ifs with hempty hfits hcopy hsource hbelow hother
    · rfl
    · rfl
    · rfl
    · exact absurd ⟨by rw [hframe]; rfl, not_or.mp hempty, by simpa using hfits, Or.inl hcopy,
        fun _ => by simpa using hsource⟩ h
    · exact absurd ⟨by rw [hframe]; rfl, not_or.mp hempty, by simpa using hfits, Or.inl hcopy,
        fun _ => by simpa using hsource⟩ h
    · rfl
    · exact absurd ⟨by rw [hframe]; rfl, not_or.mp hempty, by simpa using hfits, Or.inr (not_not.mp hother),
        fun hop => absurd hop hcopy⟩ h

lemma render_copy (h : g.Carries gfxcardRenderCopy) (f : Framestore) :
    (gfxcardRender g gfxcardRenderCopy f).bytes =
      (if g.renderSrcY < g.renderY then (List.range g.renderH.toNat).reverse else List.range g.renderH.toNat).foldl
        (copyRow g) f.bytes := by
  obtain ⟨frame, hframe⟩ := Option.isSome_iff_exists.mp h.shown
  unfold gfxcardRender
  rw [hframe]
  dsimp only
  rw [if_neg (not_or.mpr h.some_pixels), if_neg (by rw [h.fits]; decide), if_pos rfl,
    if_neg (by rw [h.source_fits rfl]; decide)]
  split <;> rfl

lemma render_fill (h : g.Carries gfxcardRenderFill) (f : Framestore) :
    (gfxcardRender g gfxcardRenderFill f).bytes = (List.range g.renderH.toNat).foldl (fillRow g) f.bytes := by
  obtain ⟨frame, hframe⟩ := Option.isSome_iff_exists.mp h.shown
  unfold gfxcardRender
  rw [hframe]
  dsimp only
  rw [if_neg (not_or.mpr h.some_pixels), if_neg (by rw [h.fits]; decide), if_neg (by decide), if_neg (by decide)]

/-- **A copy**, whichever way the rows are walked. -/
lemma copy_exact (h : g.Carries gfxcardRenderCopy) (f : Framestore) :
    (∀ row < g.renderH.toNat, ∀ a, g.InRow g.renderX.toNat (g.renderY.toNat + row) g.renderW.toNat a →
        (gfxcardRender g gfxcardRenderCopy f).bytes a = (copyStroke g f.bytes row).meant a) ∧
      ∀ a, (∀ row < g.renderH.toNat, ¬ g.InRow g.renderX.toNat (g.renderY.toNat + row) g.renderW.toNat a) →
        (gfxcardRender g gfxcardRenderCopy f).bytes a = f.bytes a := by
  obtain ⟨frame, hframe⟩ := Option.isSome_iff_exists.mp h.shown
  have hg := displays_of_gfxcardFrame hframe
  have hheight := hg.height_le
  obtain ⟨hx, hy⟩ := fits_iff.mp h.fits
  obtain ⟨hsx, hsy⟩ := fits_iff.mp (h.source_fits rfl)
  -- the order of the rows, and that each is past the overlap with those before it
  obtain ⟨rows, hrows, hmem, hnodup, horder⟩ : ∃ rows : List Nat,
      (if g.renderSrcY < g.renderY then (List.range g.renderH.toNat).reverse else List.range g.renderH.toNat) = rows ∧
        (∀ r, r ∈ rows ↔ r < g.renderH.toNat) ∧ rows.Nodup ∧
          rows.Pairwise fun r s => g.renderSrcY.toNat + s ≠ g.renderY.toNat + r := by
    by_cases hbelow : g.renderSrcY < g.renderY
    · have hbelow' := UInt32.lt_iff_toNat_lt.mp hbelow
      refine ⟨_, if_pos hbelow, fun r => by simp, List.nodup_reverse.mpr List.nodup_range, ?_⟩
      exact List.pairwise_reverse.mpr (List.pairwise_lt_range.imp fun hlt heq => by omega)
    · have habove := mt UInt32.lt_iff_toNat_lt.mpr hbelow
      refine ⟨_, if_neg hbelow, fun r => List.mem_range, List.nodup_range, ?_⟩
      exact List.pairwise_lt_range.imp fun hlt heq => by omega
  have hdraw : ∀ r ∈ rows, ∀ m, copyRow g m r = (copyStroke g f.bytes r).draw m := fun r hr m => by
    have hlt := (hmem r).mp hr
    exact copyRow_eq (by omega) (by omega)
  have hspares : (rows.map (copyStroke g f.bytes)).Pairwise Spares :=
    List.pairwise_map.mpr (horder.imp fun hne => copy_spares hg hx hsx hne)
  obtain ⟨hin, hout⟩ := drawAll_rows hg hx (fun r a => rfl) (fun r a _ => rfl) hspares hnodup
  rw [render_copy h, hrows, foldl_eq_drawAll hdraw]
  exact ⟨fun row hrow => hin row ((hmem row).mpr hrow), fun a ha => hout a fun r hr => ha r ((hmem r).mp hr)⟩

/-- **A fill.** -/
lemma fill_exact (h : g.Carries gfxcardRenderFill) (f : Framestore) :
    (∀ row < g.renderH.toNat, ∀ a, g.InRow g.renderX.toNat (g.renderY.toNat + row) g.renderW.toNat a →
        (gfxcardRender g gfxcardRenderFill f).bytes a = (fillStroke g f.bytes row).meant a) ∧
      ∀ a, (∀ row < g.renderH.toNat, ¬ g.InRow g.renderX.toNat (g.renderY.toNat + row) g.renderW.toNat a) →
        (gfxcardRender g gfxcardRenderFill f).bytes a = f.bytes a := by
  obtain ⟨frame, hframe⟩ := Option.isSome_iff_exists.mp h.shown
  have hg := displays_of_gfxcardFrame hframe
  have hheight := hg.height_le
  obtain ⟨hx, hy⟩ := fits_iff.mp h.fits
  have hdraw : ∀ r ∈ List.range g.renderH.toNat, ∀ m, fillRow g m r = (fillStroke g f.bytes r).draw m :=
    fun r hr m => by
      have hlt := List.mem_range.mp hr
      exact fillRow_eq (by omega)
  have hspares : ((List.range g.renderH.toNat).map (fillStroke g f.bytes)).Pairwise Spares :=
    List.pairwise_map.mpr (List.pairwise_lt_range.imp fun hlt => fill_spares hg hx (Nat.ne_of_gt hlt))
  obtain ⟨hin, hout⟩ := drawAll_rows hg hx (fun r a => rfl) (fun r a _ => rfl) hspares List.nodup_range
  rw [render_fill h, foldl_eq_drawAll hdraw]
  exact ⟨fun row hrow => hin row (List.mem_range.mpr hrow),
    fun a ha => hout a fun r hr => ha r (List.mem_range.mp hr)⟩

end Exact

/-- **Rectangle operations.**  Whatever the registers are, an operation that is not carried out changes no byte.  One
that is has its rectangles inside the framestore.  A copy leaves in each byte what was in the byte of the source
before, a fill what was there through the pattern, by its row and by how far it is from the row's start; and no
other byte changes. -/
theorem gfxcardRender_exact (g : GfxCard) (op : UInt32) (f : Framestore) :
    (¬ g.Carries op → (gfxcardRender g op f).bytes = f.bytes) ∧
      (g.Carries op →
        (∀ row < g.renderH.toNat, ∀ i < g.renderW.toNat * g.bytesPerPixel,
          g.pixelAt g.renderX.toNat (g.renderY.toNat + row) + i < gfxcardFbSize.toNat ∧
            (op = gfxcardRenderCopy →
              g.pixelAt g.renderSrcX.toNat (g.renderSrcY.toNat + row) + i < gfxcardFbSize.toNat ∧
                (gfxcardRender g op f).bytes (g.pixelAt g.renderX.toNat (g.renderY.toNat + row) + i) =
                  f.bytes (g.pixelAt g.renderSrcX.toNat (g.renderSrcY.toNat + row) + i)) ∧
              (op = gfxcardRenderFill →
                (gfxcardRender g op f).bytes (g.pixelAt g.renderX.toNat (g.renderY.toNat + row) + i) =
                  (f.bytes (g.pixelAt g.renderX.toNat (g.renderY.toNat + row) + i) |||
                    patternByte (g.patternOra (g.renderY.toNat + row)) (g.renderX.toNat * g.bytesPerPixel + i)) ^^^
                    patternByte (g.patternEor (g.renderY.toNat + row)) (g.renderX.toNat * g.bytesPerPixel + i))) ∧
          ∀ a, (∀ row < g.renderH.toNat, ¬ g.InRow g.renderX.toNat (g.renderY.toNat + row) g.renderW.toNat a) →
            (gfxcardRender g op f).bytes a = f.bytes a) := by
  refine ⟨fun h => render_of_not_carries h f, fun h => ?_⟩
  obtain ⟨frame, hframe⟩ := Option.isSome_iff_exists.mp h.shown
  have hg := displays_of_gfxcardFrame hframe
  obtain ⟨hx, hy⟩ := fits_iff.mp h.fits
  have hinRow : ∀ {x y i : Nat}, i < g.renderW.toNat * g.bytesPerPixel →
      g.InRow x y g.renderW.toNat (g.pixelAt x y + i) := fun hi => ⟨Nat.le_add_right _ _, Nat.add_lt_add_left hi _⟩
  have hinside : ∀ row < g.renderH.toNat, ∀ i < g.renderW.toNat * g.bytesPerPixel,
      g.pixelAt g.renderX.toNat (g.renderY.toNat + row) + i < gfxcardFbSize.toNat := fun row hrow i hi =>
    hg.inside_row hx (by omega) (hinRow hi)
  rcases h.known with rfl | rfl
  · obtain ⟨hsx, hsy⟩ := fits_iff.mp (h.source_fits rfl)
    obtain ⟨hin, hout⟩ := copy_exact h f
    refine ⟨fun row hrow i hi => ⟨hinside row hrow i hi, fun _ => ⟨hg.inside_row hsx (by omega) (hinRow hi), ?_⟩,
      fun hop => absurd hop (by decide)⟩, hout⟩
    rw [hin row hrow _ (hinRow hi)]
    simp only [copyStroke, Nat.add_sub_cancel_left]
  · obtain ⟨hin, hout⟩ := fill_exact h f
    refine ⟨fun row hrow i hi => ⟨hinside row hrow i hi, fun hop => absurd hop (by decide), fun _ => ?_⟩, hout⟩
    have hoff : g.pixelAt g.renderX.toNat (g.renderY.toNat + row) + i -
        (g.start.toNat + (g.renderY.toNat + row) * g.stride.toNat) = g.renderX.toNat * g.bytesPerPixel + i := by
      unfold GfxCard.pixelAt
      omega
    rw [hin row hrow _ (hinRow hi)]
    simp only [fillStroke, patterned, hoff]

/-- A display of four rows of four bytes that is scrolled down by one. -/
example (g : GfxCard) : GfxCard.Carries
    { g with
      fitted := true, ctrl := 1, width := 4, height := 4, bpp := 8, stride := 4, start := 0
      renderX := 0, renderY := 1, renderW := 4, renderH := 3, renderSrcX := 0, renderSrcY := 0 }
    gfxcardRenderCopy :=
  ⟨by simp [gfxcardFrame, gfxcardActive, ctrlEnable, gfxcardMaxWidth, gfxcardMaxHeight, gfxcardFbSize],
    show (4 : UInt32) ≠ 0 ∧ (3 : UInt32) ≠ 0 by decide, rfl, Or.inl rfl, fun _ => rfl⟩

/-- **What changes is redrawn**: the page of every byte that an operation changes is marked. -/
theorem gfxcardRender_dirty (g : GfxCard) (op : UInt32) (f : Framestore) {a : Nat}
    (ha : (gfxcardRender g op f).bytes a ≠ f.bytes a) :
    (gfxcardRender g op f).dirty (a >>> gfxcardDirtyShift) = true := by
  have hcarries : g.Carries op := by
    by_contra hno
    exact ha (congrFun (render_of_not_carries hno f) a)
  obtain ⟨frame, hframe⟩ := Option.isSome_iff_exists.mp hcarries.shown
  have hg := displays_of_gfxcardFrame hframe
  obtain ⟨hx, hy⟩ := fits_iff.mp hcarries.fits
  have hrow : ∃ row < g.renderH.toNat, g.InRow g.renderX.toNat (g.renderY.toNat + row) g.renderW.toNat a := by
    by_contra hno
    refine ha ?_
    have hclear : ∀ row < g.renderH.toNat, ¬ g.InRow g.renderX.toNat (g.renderY.toNat + row) g.renderW.toNat a :=
      fun row hlt hin => hno ⟨row, hlt, hin⟩
    rcases hcarries.known with rfl | rfl
    · exact (copy_exact hcarries f).2 a hclear
    · exact (fill_exact hcarries f).2 a hclear
  obtain ⟨row, hlt, hin⟩ := hrow
  obtain ⟨hlow, hhigh⟩ := hg.inRow hx hin
  have hsize := hg.inside_row hx (by omega) hin
  have hfirst : g.renderY.toNat * g.stride.toNat ≤ (g.renderY.toNat + row) * g.stride.toNat :=
    Nat.mul_le_mul_right _ (Nat.le_add_right _ _)
  have hlast : (g.renderY.toNat + row + 1) * g.stride.toNat ≤
      g.renderY.toNat * g.stride.toNat + g.renderH.toNat * g.stride.toNat := by
    rw [← Nat.add_mul]
    exact Nat.mul_le_mul_right _ (by omega)
  have hmark : gfxcardMarkDirtyRange (g.start.toNat + g.renderY.toNat * g.stride.toNat)
      (g.renderH.toNat * g.stride.toNat) f.dirty (a >>> gfxcardDirtyShift) = true := by
    unfold gfxcardMarkDirtyRange
    rw [if_neg (by omega)]
    rw [Bool.or_eq_true, Bool.and_eq_true, decide_eq_true_eq, decide_eq_true_eq]
    left
    simp only [Nat.shiftRight_eq_div_pow]
    constructor
    · exact Nat.div_le_div_right (by omega)
    · refine Nat.div_le_div_right ?_
      split <;> omega
  unfold gfxcardRender
  rw [hframe]
  dsimp only
  rw [if_neg (not_or.mpr hcarries.some_pixels), if_neg (by rw [hcarries.fits]; decide)]
  split_ifs <;> exact hmark

end RpcEmu.Gfx
