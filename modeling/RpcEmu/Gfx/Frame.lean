import RpcEmu.Gfx.Card
import RpcEmu.Mmu.Phys

/-!
# What the card is showing

`gfxcard_frame`: the registers as a display, where they describe one that lies inside the framestore.
-/

namespace RpcEmu.Gfx

open Mmu (gfxcardFbSize)

def gfxcardMaxWidth : UInt32 := 2560

def gfxcardMaxHeight : UInt32 := 1440

structure GfxCardFrame where
  /-- Where `fb` points to in the framestore. -/
  fb : UInt32
  available : UInt32
  width : UInt32
  height : UInt32
  stride : UInt32
  bpp : UInt32
  pixfmt : UInt32
  blanked : Bool
  ptrVisible : Bool
  ptrX : UInt32
  ptrY : UInt32
  ptrWidth : UInt32
  ptrHeight : UInt32
  ptrPhys : UInt32
  ptrPalette : Vector UInt32 4

/-- `gfxcard_active`. -/
def gfxcardActive (g : GfxCard) : Bool :=
  g.fitted && decide (g.ctrl &&& ctrlEnable ≠ 0 ∧ g.width ≠ 0 ∧ g.height ≠ 0 ∧ g.stride ≠ 0)

/-- `gfxcard_frame`. -/
def gfxcardFrame (g : GfxCard) : Option GfxCardFrame :=
  if gfxcardActive g = false then none
  else if g.bpp ≠ 8 ∧ g.bpp ≠ 16 ∧ g.bpp ≠ 32 then none
  else if g.width = 0 ∨ g.height = 0 then none
  else if gfxcardMaxWidth < g.width ∨ gfxcardMaxHeight < g.height then none
  -- a stride narrower than a row would have the rows overlap
  else if g.stride < g.width * (g.bpp / 8) then none
  else if gfxcardFbSize ≤ g.start then none
  -- at 64 bits, so that no stride overflows the arithmetic
  else if (gfxcardFbSize - g.start).toNat <
      g.stride.toNat * (g.height - 1).toNat + g.width.toNat * (g.bpp / 8).toNat then none
  else some {
    fb := g.start
    available := gfxcardFbSize - g.start
    width := g.width
    height := g.height
    stride := g.stride
    bpp := g.bpp
    pixfmt := g.pixfmt
    blanked := decide (g.ctrl &&& ctrlBlank ≠ 0)
    ptrVisible := decide (g.ptrCtrl &&& ptrCtrlShow ≠ 0 ∧ g.ptrWidth ≠ 0 ∧ g.ptrHeight ≠ 0 ∧ g.ptrPhys ≠ 0)
    ptrX := g.ptrX
    ptrY := g.ptrY
    ptrWidth := g.ptrWidth
    ptrHeight := g.ptrHeight
    ptrPhys := g.ptrPhys
    ptrPalette := g.ptrPalette }

/-- A frame that can be shown: its depth, its size, and its bytes in the framestore. -/
structure GfxCardFrame.Shown (f : GfxCardFrame) : Prop where
  bpp : f.bpp = 8 ∨ f.bpp = 16 ∨ f.bpp = 32
  width_pos : 0 < f.width.toNat
  width_le : f.width.toNat ≤ 2560
  height_pos : 0 < f.height.toNat
  height_le : f.height.toNat ≤ 1440
  row : f.width.toNat * (f.bpp.toNat / 8) ≤ f.stride.toNat
  inside : f.fb.toNat + f.stride.toNat * (f.height.toNat - 1) + f.width.toNat * (f.bpp.toNat / 8) ≤ 0x00f00000

lemma toNat_eq_zero_iff (a : UInt32) : a.toNat = 0 ↔ a = 0 := by
  rw [← UInt32.toNat_inj]
  rfl

/-- **What is shown** passed every check. -/
theorem shown_of_gfxcardFrame {g : GfxCard} {f : GfxCardFrame} (h : gfxcardFrame g = some f) : f.Shown := by
  unfold gfxcardFrame at h
  split_ifs at h with hactive hbpp hzero hmax hstride hstart hneeded
  cases h
  rw [not_or, ← toNat_eq_zero_iff, ← toNat_eq_zero_iff] at hzero
  rw [not_or, UInt32.lt_iff_toNat_lt, UInt32.lt_iff_toNat_lt] at hmax
  rw [UInt32.lt_iff_toNat_lt] at hstride
  rw [UInt32.le_iff_toNat_le] at hstart
  have hmaxw : gfxcardMaxWidth.toNat = 2560 := rfl
  have hmaxh : gfxcardMaxHeight.toNat = 1440 := rfl
  have hsize : gfxcardFbSize.toNat = 0x00f00000 := rfl
  rw [hmaxw, hmaxh] at hmax
  have hbpp' : g.bpp = 8 ∨ g.bpp = 16 ∨ g.bpp = 32 := by
    by_contra hno
    rw [not_or, not_or] at hno
    exact hbpp hno
  have hbytes : (g.bpp / 8).toNat = g.bpp.toNat / 8 := by rw [UInt32.toNat_div]; rfl
  have hle4 : g.bpp.toNat / 8 ≤ 4 := by
    rcases hbpp' with hb | hb | hb <;> rw [hb] <;> decide
  have hmul : g.width.toNat * (g.bpp.toNat / 8) ≤ 2560 * 4 := Nat.mul_le_mul (by omega) hle4
  have hrow : (g.width * (g.bpp / 8)).toNat = g.width.toNat * (g.bpp.toNat / 8) := by
    rw [UInt32.toNat_mul, hbytes]
    omega
  have hheight : (g.height - 1).toNat = g.height.toNat - 1 := by
    rw [UInt32.toNat_sub_of_le]
    · rfl
    · rw [UInt32.le_iff_toNat_le]
      exact Nat.pos_of_ne_zero hzero.2
  have hsub : (gfxcardFbSize - g.start).toNat = 0x00f00000 - g.start.toNat := by
    rw [UInt32.toNat_sub_of_le]
    · rfl
    · rw [UInt32.le_iff_toNat_le]
      omega
  rw [hsub, hheight, hbytes] at hneeded
  rw [hrow] at hstride
  exact {
    bpp := hbpp'
    width_pos := Nat.pos_of_ne_zero hzero.1
    width_le := by simpa using Nat.not_lt.mp hmax.1
    height_pos := Nat.pos_of_ne_zero hzero.2
    height_le := by simpa using Nat.not_lt.mp hmax.2
    row := Nat.not_lt.mp hstride
    inside := by
      simp only
      omega }

end RpcEmu.Gfx
