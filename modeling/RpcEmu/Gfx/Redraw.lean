import RpcEmu.Gfx.Render

/-!
# Redrawing what has changed

The display of the card is converted to the host's pixels by the video thread, and only where the guest has
written since: `gfxcard_take_dirty_rows`, the framestore's writes in `mem.c`, `drawscr` and
`vidcthread_gfxcard`.

* **The guest** has its first write of a page noted; those after it are inlined, and are not.  A byte written the long
  way has an entry made for the page of the last word, which may not be noted (`Filed`).
* **The emulator thread** takes the pages that are noted as one band of rows, and drops the inlined entries.
* **The video thread** converts the band row by row, while the guest writes on.

`Covered` says of every row of the display that it is drawn as it should be, or has a page that is noted, or is
still to be converted; no step of the three, in whatever order, loses a row, as long as such an entry is for a page
that is noted.  The pointer that is put over the
picture is not in the model, nor are the plots of `accelerators.c`.
-/

namespace RpcEmu.Gfx

open Mmu (gfxcardFbSize)
open Streams (u32Bytes)

/-! ## The picture -/

/-- `makecol`. -/
def makecol (r g b : UInt32) : UInt32 := (0xff000000 : UInt32) ||| (r <<< 16) ||| (g <<< 8) ||| b

/-- What `drawscr` gives the video thread of `GfxCardFrame`. -/
structure Picture where
  fb : UInt32
  stride : UInt32
  bpp : UInt32
  pixfmt : UInt32
  width : UInt32
  height : UInt32
  blanked : Bool
  deriving DecidableEq

def GfxCard.picture (g : GfxCard) : Option Picture :=
  (gfxcardFrame g).map fun f => ⟨f.fb, f.stride, f.bpp, f.pixfmt, f.width, f.height, f.blanked⟩

namespace Picture

/-- `thr.vidc_xsize` and `thr.vidc_ysize`, of which `drawscr` makes the first at least 2. -/
def size (p : Picture) : Nat × Nat := (if p.width.toNat < 2 then 2 else p.width.toNat, p.height.toNat)

def line (p : Picture) (y : Nat) : Nat := p.fb.toNat + y * p.stride.toNat

/-- How long a row is. -/
def bytes (p : Picture) : Nat := p.width.toNat * (p.bpp.toNat / 8)

def widen5 (c : UInt32) : UInt32 := (c <<< 3) ||| (c >>> 2)

/-- A pixel as `vidcthread_gfxcard` converts it. -/
def pixel (p : Picture) (palette : Vector UInt32 256) (fb : Nat → UInt8) (y x : Nat) : UInt32 :=
  let byte := fun k => (fb (p.line y + k)).toUInt32
  if p.bpp = 8 then
    let e := palette.getD (fb (p.line y + x)).toNat 0
    makecol ((e >>> 8) &&& 0xff) ((e >>> 16) &&& 0xff) ((e >>> 24) &&& 0xff)
  else if p.bpp = 16 then
    let v := byte (x * 2) ||| (byte (x * 2 + 1) <<< 8)
    if p.pixfmt = pixfmt555 then
      makecol (widen5 (v &&& 0x1f)) (widen5 ((v >>> 5) &&& 0x1f)) (widen5 ((v >>> 10) &&& 0x1f))
    else
      let g := (v >>> 5) &&& 0x3f
      makecol (widen5 (v &&& 0x1f)) ((g <<< 2) ||| (g >>> 4)) (widen5 ((v >>> 11) &&& 0x1f))
  else if p.bpp = 32 then makecol (byte (x * 4)) (byte (x * 4 + 1)) (byte (x * 4 + 2))
  else 0

def look (p : Picture) (palette : Vector UInt32 256) (fb : Nat → UInt8) (y x : Nat) : UInt32 :=
  if p.blanked then 0 else p.pixel palette fb y x

end Picture

/-! ## The three parties -/

def gfxcardDirtyPages : Nat := 3840

/-- The row of an offset into the framestore. -/
def GfxCard.rowAt (g : GfxCard) (offset : Nat) : Nat :=
  if g.start.toNat < offset then (offset - g.start.toNat) / g.stride.toNat else 0

/-- `gfxcard_take_dirty_rows`, without the clearing. -/
def gfxcardTakeDirtyRows (g : GfxCard) (dirty : Nat → Bool) : Option (Nat × Nat) :=
  let found := (List.range gfxcardDirtyPages).foldl
    (fun f page => if dirty page then (if page < f.1 then page else f.1, page) else f) (gfxcardDirtyPages, 0)
  if found.2 < found.1 then none
  else if g.stride = 0 then none
  else
    let low := g.rowAt (found.1 <<< gfxcardDirtyShift)
    let high := g.rowAt (((found.2 + 1) <<< gfxcardDirtyShift) - 1)
    if g.height.toNat ≤ low then none
    else some (low, (if g.height.toNat ≤ high then g.height.toNat - 1 else high) + 1)

/-- The rows that the video thread has still to convert; `hostPal` is there once it has begun. -/
structure Scan where
  picture : Picture
  next : Nat
  stop : Nat
  hostPal : Option (Vector UInt32 256)

/-- What the video thread has been woken for. -/
inductive Pending where
  | vidc
  | card (scan : Scan)

structure Display where
  card : GfxCard
  store : Framestore
  /-- The pages with a write entry in `vwaddrl`. -/
  inlined : Nat → Bool
  /-- The page of the framestore in `writememcache2`, if it has one. -/
  wordPage : Option Nat
  /-- `current_sizex` and `current_sizey`. -/
  size : Nat × Nat
  pending : Option Pending
  screen : Nat → Nat → UInt32

/-- How a write of the framestore comes: through a write entry, if there is one, or by `writememfb` and `writememfl`,
with the MMU on or off. -/
inductive Way where
  | entry | mapped | flat
  deriving DecidableEq

namespace Display

/-- `gfxcard_dirty_all`. -/
def dirtyAll (d : Display) : Display := { d with store.dirty := fun _ => true }

/-- `resizedisplay`: the new bitmap has nothing of the old. -/
def resize (d : Display) (size : Nat × Nat) : Display :=
  if d.size = size then d else { d with size := size, screen := fun _ _ => 0 }

/-- `gfxcard_reg_write`, with what it does to the framestore and its record. -/
def regWrite (d : Display) (reg : Reg) (val : UInt32) : Display :=
  let d := { d with card := gfxcardRegWrite d.card reg val }
  match reg with
  | .ctrl | .width | .height | .bpp | .pixfmt | .stride | .start | .palEntry => d.dirtyAll
  | .renderOp => { d with store := gfxcardRender d.card val d.store }
  | _ => d

def put (d : Display) (offset : Nat) (vs : List UInt8) : Display :=
  { d with
    store.bytes := fun a => if offset ≤ a then vs.getD (a - offset) (d.store.bytes a) else d.store.bytes a }

/-- `mem_phys_write8` and `mem_phys_write32`: the page is noted. -/
def memPhysWrite (d : Display) (offset : Nat) (vs : List UInt8) : Display :=
  let page := offset >>> gfxcardDirtyShift
  { d.put offset vs with store.dirty := Function.update d.store.dirty page true }

/-- `vwadd`, of a page of the framestore. -/
def vwadd (d : Display) (page : Nat) : Display := { d with inlined := Function.update d.inlined page true }

/-- `writememfl`, with the MMU on. -/
def writememfl (d : Display) (offset : Nat) (vs : List UInt8) : Display :=
  let page := offset >>> gfxcardDirtyShift
  ({ d with wordPage := some page }.vwadd page).memPhysWrite offset vs

/-- What `writememfb` enters for an address in EASI space: it goes by `writememcache2`, the page of the last word. -/
def easiEntry (d : Display) : Display :=
  match d.wordPage with
  | some page => d.vwadd page
  | none => d

/-- `writememfb`, with the MMU on. -/
def writememfb (d : Display) (offset : Nat) (vs : List UInt8) : Display := d.easiEntry.memPhysWrite offset vs

/-- `mem_write8` or `mem_write32`, with the function for the long way. -/
def write (d : Display) (long : Nat → List UInt8 → Display) (offset : Nat) (vs : List UInt8) : Way → Display
  | .entry => if d.inlined (offset >>> gfxcardDirtyShift) then d.put offset vs else long offset vs
  | .mapped => long offset vs
  | .flat => d.memPhysWrite offset vs

/-- `drawscr`, as far as it is the card's: with nothing pending the display is handed to the video thread. -/
def drawscr (d : Display) (vidcSize : Nat × Nat) : Display :=
  if d.pending.isSome then d
  else
    match d.card.picture with
    | none => { d.resize vidcSize with pending := some .vidc }
    | some p =>
      let rows := (gfxcardTakeDirtyRows d.card d.store.dirty).getD (0, 0)
      { d.resize p.size with
        store.dirty := fun _ => false, inlined := fun _ => false, pending := some (.card ⟨p, rows.1, rows.2, none⟩) }

/-- `vidcthread_gfxcard` begins. -/
def wake (d : Display) : Display :=
  match d.pending with
  | some (.card ⟨p, next, stop, none⟩) =>
    if p.blanked then
      { d with
        pending := none
        screen := fun y x => if y < p.size.2 ∧ x < p.size.1 then 0 else d.screen y x }.dirtyAll
    else { d with pending := some (.card ⟨p, next, stop, some d.card.palette⟩) }
  | _ => d

/-- One row of the video thread, or its end. -/
def row (d : Display) : Display :=
  match d.pending with
  | some (.card ⟨p, next, stop, some pal⟩) =>
    if next < stop then
      { d with
        pending := some (.card ⟨p, next + 1, stop, some pal⟩)
        screen := fun y x => if y = next ∧ x < p.size.1 then p.pixel pal d.store.bytes y x else d.screen y x }
    else { d with pending := none }
  | _ => d

end Display

inductive RedrawEvent where
  | regWrite (reg : Reg) (val : UInt32)
  | write8 (offset : Nat) (val : UInt8) (way : Way)
  | write32 (word : Nat) (val : UInt32) (way : Way)
  /-- A byte by `writememfb` into EASI space beside the framestore. -/
  | easiWrite8
  /-- A word by `writememfl` outside the framestore. -/
  | otherWrite32
  /-- A write entry goes, to make room for another. -/
  | evict (page : Nat)
  | reset
  | drawscr (vidcSize : Nat × Nat)
  | wake
  | row
  /-- The other display is drawn. -/
  | vidcRow (y : Nat) (pixels : Nat → UInt32)
  | vidcDone

namespace Display

/-- The screen's row is what the store says. -/
def RowRight (d : Display) (p : Picture) (y : Nat) : Prop :=
  ∀ x < p.width.toNat, d.screen y x = p.look d.card.palette d.store.bytes y x

/-- A page under the row is marked. -/
def RowDirty (d : Display) (p : Picture) (y : Nat) : Prop :=
  ∃ k < p.bytes, d.store.dirty ((p.line y + k) >>> gfxcardDirtyShift) = true

/-- A redraw already asked for will draw the row. -/
def RowPending (d : Display) (y : Nat) : Prop :=
  ∃ s, d.pending = some (.card s) ∧ (s.picture.blanked = true ∨ s.next ≤ y ∧ y < s.stop)

/-- Every page is marked. -/
def AllDirty (d : Display) : Prop := ∀ page, d.store.dirty page = true

/-- The scan that is pending is of what the card shows now. -/
def Current (d : Display) (p : Picture) : Prop :=
  ∃ s, d.pending = some (.card s) ∧ s.picture = p ∧ ∀ pal ∈ s.hostPal, pal = d.card.palette

/-- A byte that goes the long way makes no entry for a page that is not noted. -/
def Filed (d : Display) : RedrawEvent → Prop
  | .write8 offset _ way =>
    way = .flat ∨ way = .entry ∧ d.inlined (offset >>> gfxcardDirtyShift) = true ∨
      ∀ page ∈ d.wordPage, page = offset >>> gfxcardDirtyShift ∨ d.store.dirty page = true
  | .easiWrite8 => ∀ page ∈ d.wordPage, d.store.dirty page = true
  | _ => True

instance (d : Display) (e : RedrawEvent) : Decidable (d.Filed e) := by
  cases e <;> · unfold Filed; infer_instance

/-- Each row of the card's picture is right on the screen, or will come to be. -/
structure Covered (d : Display) : Prop where
  inlined : ∀ page, d.inlined page = true → d.store.dirty page = true
  begun : ∀ s, d.pending = some (.card s) → s.hostPal.isSome = true → s.picture.blanked = false
  pending : ∀ p, d.card.picture = some p → d.pending.isSome = true → d.Current p ∨ d.AllDirty
  size : ∀ p, d.card.picture = some p → d.size = p.size ∨ d.AllDirty
  rows : ∀ p, d.card.picture = some p → ∀ y < p.height.toNat, d.RowRight p y ∨ d.RowDirty p y ∨ d.RowPending y

variable {d d' : Display} {p : Picture} {y : Nat}

/-- What the display of a card is known to be. -/
structure Fits (g : GfxCard) (p : Picture) : Prop where
  bytes_pos : 0 < p.bytes
  row : p.bytes ≤ p.stride.toNat
  inside : ∀ y < p.height.toNat, p.line y + p.bytes ≤ gfxcardFbSize.toNat
  fb : p.fb = g.start
  stride : p.stride = g.stride
  height : p.height = g.height

lemma fits_of_picture {g : GfxCard} (h : g.picture = some p) : Fits g p := by
  obtain ⟨f, hf, rfl⟩ := Option.map_eq_some_iff.mp h
  have hshown := shown_of_gfxcardFrame hf
  have hbpp : 0 < f.bpp.toNat / 8 := by rcases hshown.bpp with hb | hb | hb <;> rw [hb] <;> decide
  have hinside := hshown.inside
  have hregs : f.fb = g.start ∧ f.stride = g.stride ∧ f.height = g.height := by
    unfold gfxcardFrame at hf
    split_ifs at hf
    cases hf
    exact ⟨rfl, rfl, rfl⟩
  refine ⟨Nat.mul_pos hshown.width_pos hbpp, hshown.row, fun y hy => ?_, hregs.1, hregs.2.1, hregs.2.2⟩
  have hlast : y * f.stride.toNat ≤ f.stride.toNat * (f.height.toNat - 1) := by
    rw [Nat.mul_comm]
    exact Nat.mul_le_mul_left _ (Nat.le_pred_of_lt hy)
  have hsize : gfxcardFbSize.toNat = 0x00f00000 := rfl
  rw [Picture.line, Picture.bytes, hsize]
  dsimp only
  omega

lemma rowDirty_of_allDirty (h : d.AllDirty) (hp : d.card.picture = some p) (y : Nat) : d.RowDirty p y :=
  ⟨0, (fits_of_picture hp).bytes_pos, h _⟩

lemma covered_of_allDirty (h : d.AllDirty)
    (hbegun : ∀ s, d.pending = some (.card s) → s.hostPal.isSome = true → s.picture.blanked = false) :
    d.Covered where
  inlined page _ := h page
  begun := hbegun
  pending _ _ _ := .inr h
  size _ _ := .inr h
  rows _ hp y _ := .inr (.inl (rowDirty_of_allDirty h hp y))

/-- **A row looks as its own bytes do.** -/
lemma look_congr (palette : Vector UInt32 256) {fb fb' : Nat → UInt8} {x : Nat} (hx : x < p.width.toNat)
    (h : ∀ k < p.bytes, fb' (p.line y + k) = fb (p.line y + k)) :
    p.look palette fb' y x = p.look palette fb y x := by
  unfold Picture.bytes at h
  unfold Picture.look Picture.pixel
  dsimp only
  split
  · rfl
  split
  · rename_i h8
    rw [h8, show (8 : UInt32).toNat / 8 = 1 from rfl] at h
    rw [h x (by omega)]
  split
  · rename_i h16
    rw [h16, show (16 : UInt32).toNat / 8 = 2 from rfl] at h
    rw [h (x * 2) (by omega), h (x * 2 + 1) (by omega)]
  split
  · rename_i h32
    rw [h32, show (32 : UInt32).toNat / 8 = 4 from rfl] at h
    rw [h (x * 4) (by omega), h (x * 4 + 1) (by omega), h (x * 4 + 2) (by omega)]
  · rfl

/-- **What leaves the picture and the scan alone**: a byte that changes has its page noted. -/
lemma Covered.stores (h : d.Covered) (hpicture : d'.card.picture = d.card.picture)
    (hpalette : d'.card.palette = d.card.palette) (hpending : d'.pending = d.pending) (hsize : d'.size = d.size)
    (hscreen : d'.screen = d.screen)
    (hdirty : ∀ page, d.store.dirty page = true → d'.store.dirty page = true)
    (hbytes : ∀ a, d'.store.bytes a ≠ d.store.bytes a → d'.store.dirty (a >>> gfxcardDirtyShift) = true)
    (hinlined : ∀ page, d'.inlined page = true → d'.store.dirty page = true) : d'.Covered := by
  have hall : d.AllDirty → d'.AllDirty := fun hd page => hdirty page (hd page)
  refine ⟨hinlined, hpending ▸ h.begun, fun p hp hsome => ?_, fun p hp => ?_, fun p hp y hy => ?_⟩ <;>
    rw [hpicture] at hp
  · rw [hpending] at hsome
    obtain ⟨s, hs, hsp, hpal⟩ | hd := h.pending p hp hsome
    · exact .inl ⟨s, hpending.trans hs, hsp, by rw [hpalette]; exact hpal⟩
    · exact .inr (hall hd)
  · exact (h.size p hp).imp (hsize.trans ·) hall
  · obtain hright | ⟨k, hk, hd⟩ | ⟨s, hs, hin⟩ := h.rows p hp y hy
    · by_cases hsame : ∀ k < p.bytes, d'.store.bytes (p.line y + k) = d.store.bytes (p.line y + k)
      · refine .inl fun x hx => ?_
        rw [hscreen, hpalette, hright x hx, look_congr _ hx hsame]
      · obtain ⟨k, hk, hne⟩ : ∃ k < p.bytes, d'.store.bytes (p.line y + k) ≠ d.store.bytes (p.line y + k) := by
          simpa using hsame
        exact .inr (.inl ⟨k, hk, hbytes _ hne⟩)
    · exact .inr (.inl ⟨k, hk, hdirty _ hd⟩)
    · exact .inr (.inr ⟨s, hpending.trans hs, hin⟩)

/-! ### Taking the rows -/

lemma found_dirty (dirty : Nat → Bool) {n : Nat} (hn : n ≤ gfxcardDirtyPages) {page : Nat} (hpage : page < n)
    (h : dirty page = true) :
    let f := (List.range n).foldl
      (fun f page => if dirty page then (if page < f.1 then page else f.1, page) else f) (gfxcardDirtyPages, 0)
    f.1 ≤ page ∧ page ≤ f.2 := by
  have hlast : ∀ m, ((List.range m).foldl (fun f page => if dirty page then (if page < f.1 then page else f.1, page)
      else f) (gfxcardDirtyPages, 0)).2 ≤ m := by
    intro m
    induction m with
    | zero => exact Nat.zero_le _
    | succ m ih =>
      rw [List.range_succ, List.foldl_append, List.foldl_cons, List.foldl_nil]
      split
      · exact Nat.le_succ m
      · exact Nat.le_succ_of_le ih
  induction n with
  | zero => omega
  | succ n ih =>
    rw [List.range_succ, List.foldl_append, List.foldl_cons, List.foldl_nil]
    have hbound := hlast n
    rcases Nat.lt_succ_iff_lt_or_eq.mp hpage with hlt | rfl
    · have hih := ih (by omega) hlt
      dsimp only at hih ⊢
      split
      · dsimp only
        split <;> omega
      · exact hih
    · dsimp only
      rw [if_pos h]
      dsimp only
      split <;> omega

/-- **A row with a page that is noted is taken.** -/
lemma taken (hp : d.card.picture = some p) (hy : y < p.height.toNat) (h : d.RowDirty p y) :
    ∃ rows, gfxcardTakeDirtyRows d.card d.store.dirty = some rows ∧ rows.1 ≤ y ∧ y < rows.2 := by
  obtain ⟨k, hk, hd⟩ := h
  have hfits := fits_of_picture hp
  have hinside := hfits.inside y hy
  have hrow := hfits.row
  have hline : p.line y = d.card.start.toNat + y * d.card.stride.toNat := by rw [Picture.line, hfits.fb, hfits.stride]
  have hsize : gfxcardFbSize.toNat = 4096 * gfxcardDirtyPages := rfl
  have hshift : ∀ n : Nat, n <<< gfxcardDirtyShift = n * 4096 := fun n => Nat.shiftLeft_eq n 12
  have hpage : (p.line y + k) >>> gfxcardDirtyShift = (p.line y + k) / 4096 := Nat.shiftRight_eq_div_pow _ 12
  rw [hpage] at hd
  obtain ⟨hfirst, hlast⟩ := found_dirty d.store.dirty le_rfl (show (p.line y + k) / 4096 < gfxcardDirtyPages by omega) hd
  have hstride : 0 < d.card.stride.toNat := by
    have hpos := hfits.bytes_pos
    rw [← hfits.stride]
    omega
  rw [hfits.height] at hy
  rw [hfits.stride] at hrow
  unfold gfxcardTakeDirtyRows
  dsimp only
  generalize (List.range gfxcardDirtyPages).foldl _ _ = f at hfirst hlast ⊢
  rw [if_neg (by omega), if_neg (fun hz => by rw [hz] at hstride; exact absurd hstride (by decide)), hshift, hshift]
  have hlow : d.card.rowAt (f.1 * 4096) ≤ y := by
    unfold GfxCard.rowAt
    split
    · have hmul : d.card.stride.toNat * (y + 1) = y * d.card.stride.toNat + d.card.stride.toNat := by
        rw [Nat.mul_succ, Nat.mul_comm]
      exact Nat.le_of_lt_succ (Nat.div_lt_of_lt_mul (by rw [Nat.succ_eq_add_one, hmul]; omega))
    · exact Nat.zero_le y
  have hhigh : y ≤ d.card.rowAt ((f.2 + 1) * 4096 - 1) := by
    unfold GfxCard.rowAt
    split
    · rw [Nat.le_div_iff_mul_le hstride]
      omega
    · have hzero : y * d.card.stride.toNat = 0 := by omega
      exact ((Nat.mul_eq_zero.mp hzero).resolve_right (by omega)).le
  rw [if_neg (by omega)]
  refine ⟨_, rfl, hlow, ?_⟩
  dsimp only
  split <;> omega

/-! ### The steps -/

lemma covered_of_none (hnone : d.card.picture = none)
    (hinlined : ∀ page, d.inlined page = true → d.store.dirty page = true)
    (hbegun : ∀ s, d.pending = some (.card s) → s.hostPal.isSome = true → s.picture.blanked = false) :
    d.Covered where
  inlined := hinlined
  begun := hbegun
  pending p hp := by simp [hnone] at hp
  size p hp := by simp [hnone] at hp
  rows p hp := by simp [hnone] at hp

/-- The registers that the picture is made of. -/
def scanned (g : GfxCard) : Bool × UInt32 × UInt32 × UInt32 × UInt32 × UInt32 × UInt32 × UInt32 :=
  (g.fitted, g.ctrl, g.width, g.height, g.bpp, g.pixfmt, g.stride, g.start)

lemma picture_congr {g g' : GfxCard} (h : scanned g' = scanned g) : g'.picture = g.picture := by
  cases g
  cases g'
  simp only [scanned, Prod.mk.injEq] at h
  obtain ⟨rfl, rfl, rfl, rfl, rfl, rfl, rfl, rfl⟩ := h
  unfold GfxCard.picture gfxcardFrame gfxcardActive
  dsimp only
  split_ifs <;> rfl

lemma gfxcardRender_keeps (g : GfxCard) (op : UInt32) (f : Framestore) {page : Nat} (h : f.dirty page = true) :
    (gfxcardRender g op f).dirty page = true := by
  have hmark : ∀ offset len, gfxcardMarkDirtyRange offset len f.dirty page = true := by
    intro offset len
    unfold gfxcardMarkDirtyRange
    split
    · exact h
    · simp [h]
  unfold gfxcardRender
  split
  · exact h
  · dsimp only
    split_ifs <;> first | exact h | exact hmark _ _

lemma Covered.regWrite (h : d.Covered) (reg : Reg) (val : UInt32) : (d.regWrite reg val).Covered := by
  have hsame : ∀ g : GfxCard, scanned g = scanned d.card → g.palette = d.card.palette →
      { d with card := g }.Covered :=
    fun g hg hpal => h.stores (picture_congr hg) hpal rfl rfl rfl (fun _ => id) (fun a ha => absurd rfl ha) h.inlined
  cases reg with
  | ctrl | width | height | bpp | pixfmt | stride | start | palEntry => exact covered_of_allDirty (fun _ => rfl) h.begun
  | renderOp =>
    exact h.stores rfl rfl rfl rfl rfl (fun _ hd => gfxcardRender_keeps _ val _ hd)
      (fun a ha => gfxcardRender_dirty _ val _ ha) (fun page hi => gfxcardRender_keeps _ val _ (h.inlined page hi))
  | status => refine hsame _ ?_ ?_ <;> · simp only [gfxcardRegWrite]; split <;> rfl
  | _ => exact hsame _ rfl rfl

lemma put_bytes {offset : Nat} {vs : List UInt8}
    (hpage : ∀ k < vs.length, (offset + k) >>> gfxcardDirtyShift = offset >>> gfxcardDirtyShift) {a : Nat}
    (ha : (d.put offset vs).store.bytes a ≠ d.store.bytes a) :
    a >>> gfxcardDirtyShift = offset >>> gfxcardDirtyShift := by
  unfold put at ha
  dsimp only at ha
  by_cases hle : offset ≤ a
  · rw [if_pos hle] at ha
    by_cases hlt : a - offset < vs.length
    · have hk := hpage (a - offset) hlt
      rwa [Nat.add_sub_cancel' hle] at hk
    · simp [List.getD, List.getElem?_eq_none (Nat.not_lt.mp hlt)] at ha
  · exact absurd (if_neg hle) ha

/-- **A write that is noted**, with entries made for pages that are, or for its own. -/
lemma Covered.memPhysWrite (h : d.Covered) {offset : Nat} {vs : List UInt8} {inlined : Nat → Bool}
    {wordPage : Option Nat}
    (hpage : ∀ k < vs.length, (offset + k) >>> gfxcardDirtyShift = offset >>> gfxcardDirtyShift)
    (hinlined : ∀ page, inlined page = true → page ≠ offset >>> gfxcardDirtyShift → d.store.dirty page = true) :
    ({ d with inlined := inlined, wordPage := wordPage }.memPhysWrite offset vs).Covered := by
  refine h.stores rfl rfl rfl rfl rfl (fun page hd => ?_) (fun a ha => ?_) (fun page hi => ?_)
  · by_cases hp : page = offset >>> gfxcardDirtyShift <;> simp [Display.memPhysWrite, put, hp, hd]
  · have hin := put_bytes (d := { d with inlined := inlined, wordPage := wordPage }) hpage ha
    rw [hin]
    exact Function.update_self _ _ _
  · by_cases hp : page = offset >>> gfxcardDirtyShift
    · simp [Display.memPhysWrite, put, hp]
    · simpa [Display.memPhysWrite, put, hp] using hinlined page hi hp

/-- **A write of the guest**: with an entry for its page, the page is noted already. -/
lemma Covered.write (h : d.Covered) {long : Nat → List UInt8 → Display} {offset : Nat} {vs : List UInt8} {way : Way}
    (hpage : ∀ k < vs.length, (offset + k) >>> gfxcardDirtyShift = offset >>> gfxcardDirtyShift)
    (hlong : ¬(way = .flat ∨ way = .entry ∧ d.inlined (offset >>> gfxcardDirtyShift) = true) →
      (long offset vs).Covered) : (d.write long offset vs way).Covered := by
  cases way with
  | entry =>
    unfold Display.write
    dsimp only
    split
    · rename_i hin
      refine h.stores rfl rfl rfl rfl rfl (fun _ => id) (fun a ha => ?_) h.inlined
      rw [put_bytes hpage ha]
      exact h.inlined _ hin
    · rename_i hout
      exact hlong (by simp [hout])
  | mapped => exact hlong (by simp)
  | flat => exact h.memPhysWrite hpage fun page hi _ => h.inlined page hi

lemma Covered.writememfl (h : d.Covered) {offset : Nat} {vs : List UInt8}
    (hpage : ∀ k < vs.length, (offset + k) >>> gfxcardDirtyShift = offset >>> gfxcardDirtyShift) :
    (d.writememfl offset vs).Covered :=
  h.memPhysWrite hpage fun page hi hp => h.inlined page (by simpa [Function.update_of_ne hp] using hi)

lemma inlined_easiEntry {page : Nat} (h : d.easiEntry.inlined page = true) :
    d.inlined page = true ∨ page ∈ d.wordPage := by
  unfold easiEntry at h
  split at h
  · rename_i word hword
    by_cases hp : page = word
    · exact .inr (by rw [hp, hword]; rfl)
    · exact .inl (by simpa [Display.vwadd, Function.update_of_ne hp] using h)
  · exact .inl h

/-- **A byte the long way**, if its entry is for a page that is noted, or for its own. -/
lemma Covered.writememfb (h : d.Covered) {offset : Nat} {vs : List UInt8}
    (hpage : ∀ k < vs.length, (offset + k) >>> gfxcardDirtyShift = offset >>> gfxcardDirtyShift)
    (hfiled : ∀ page ∈ d.wordPage, page = offset >>> gfxcardDirtyShift ∨ d.store.dirty page = true) :
    (d.writememfb offset vs).Covered := by
  have hsame : d.easiEntry = { d with inlined := d.easiEntry.inlined } := by
    unfold easiEntry
    split <;> rfl
  unfold Display.writememfb
  rw [hsame]
  refine h.memPhysWrite hpage fun page hi hp => ?_
  obtain hin | hword := inlined_easiEntry hi
  · exact h.inlined page hin
  · exact (hfiled page hword).resolve_left hp

lemma Covered.easiEntry (h : d.Covered) (hfiled : ∀ page ∈ d.wordPage, d.store.dirty page = true) :
    d.easiEntry.Covered := by
  have hsame : d.easiEntry = { d with inlined := d.easiEntry.inlined } := by
    unfold Display.easiEntry
    split <;> rfl
  rw [hsame]
  exact h.stores rfl rfl rfl rfl rfl (fun _ => id) (fun a ha => absurd rfl ha)
    fun page hi => (inlined_easiEntry hi).elim (h.inlined page) (hfiled page)

lemma resize_same (d : Display) (size : Nat × Nat) : (d.resize size).card = d.card ∧ (d.resize size).store = d.store ∧
    (d.resize size).inlined = d.inlined ∧ (d.resize size).size = size ∧
      (d.size = size → (d.resize size).screen = d.screen) := by
  unfold resize
  split
  · rename_i heq
    exact ⟨rfl, rfl, rfl, heq, fun _ => rfl⟩
  · rename_i hne
    exact ⟨rfl, rfl, rfl, rfl, fun heq => absurd heq hne⟩

/-- **The rows are taken**: the record is clear, and every row that is not as it should be is to be converted. -/
lemma Covered.drawscr (h : d.Covered) (vidcSize : Nat × Nat) : (d.drawscr vidcSize).Covered := by
  unfold Display.drawscr
  split
  · exact h
  rename_i hidle
  split
  · rename_i hnone
    obtain ⟨hcard, hstore, hinlined, -, -⟩ := resize_same d vidcSize
    refine covered_of_none (by rw [hcard]; exact hnone) (fun page hi => ?_) (fun s hs => by simp at hs)
    rw [hinlined] at hi
    rw [hstore]
    exact h.inlined page hi
  · rename_i p hp
    obtain ⟨hcard, hstore, -, hsize, hscreen⟩ := resize_same d p.size
    have hpic : ∀ p', (d.resize p.size).card.picture = some p' → p' = p := by
      intro p' hp'
      rw [hcard, hp] at hp'
      exact (Option.some.inj hp').symm
    refine ⟨fun _ hi => by simp at hi, ?_, fun p' hp' _ => ?_, fun p' hp' => ?_, fun p' hp' y hy => ?_⟩
    · rintro s hs hbegun
      cases hs
      simp at hbegun
    · exact .inl ⟨_, rfl, (hpic p' hp').symm, by simp⟩
    · obtain rfl := hpic p' hp'
      exact .inl hsize
    · obtain rfl := hpic p' hp'
      have htaken : d.RowDirty p' y → ∃ s, some (Pending.card ⟨p',
          ((gfxcardTakeDirtyRows d.card d.store.dirty).getD (0, 0)).1,
          ((gfxcardTakeDirtyRows d.card d.store.dirty).getD (0, 0)).2, none⟩) = some (.card s) ∧
            (s.picture.blanked = true ∨ s.next ≤ y ∧ y < s.stop) := by
        intro hd
        obtain ⟨rows, hrows, hin⟩ := taken hp hy hd
        rw [hrows]
        exact ⟨_, rfl, .inr hin⟩
      obtain hright | hd | ⟨s, hs, -⟩ := h.rows p' hp y hy
      · obtain hsame | hall := h.size p' hp
        · refine .inl fun x hx => ?_
          show (d.resize p'.size).screen y x = p'.look (d.resize p'.size).card.palette (d.resize p'.size).store.bytes y x
          rw [hscreen hsame, hcard, hstore]
          exact hright x hx
        · exact .inr (.inr (htaken (rowDirty_of_allDirty hall hp y)))
      · exact .inr (.inr (htaken hd))
      · simp [hs] at hidle

lemma Covered.wake (h : d.Covered) : d.wake.Covered := by
  unfold Display.wake
  split
  · rename_i p next stop hpending
    split
    · exact covered_of_allDirty (fun _ => rfl) (fun s hs => by simp [dirtyAll] at hs)
    · rename_i hblank
      rw [Bool.not_eq_true] at hblank
      refine ⟨h.inlined, ?_, fun p' hp' _ => ?_, h.size, fun p' hp' y hy => ?_⟩
      · rintro s hs -
        cases hs
        exact hblank
      · obtain ⟨s, hs, hsp, -⟩ | hd := h.pending p' hp' (by rw [hpending]; rfl)
        · cases hpending.symm.trans hs
          exact .inl ⟨_, rfl, hsp, by simp⟩
        · exact .inr hd
      · obtain hright | hd | ⟨s, hs, hin⟩ := h.rows p' hp' y hy
        · exact .inl hright
        · exact .inr (.inl hd)
        · cases hpending.symm.trans hs
          exact .inr (.inr ⟨_, rfl, hin⟩)
  · exact h

/-- **A row is converted**, as the framestore has it at that moment. -/
lemma Covered.row (h : d.Covered) : d.row.Covered := by
  unfold Display.row
  split
  · rename_i p next stop pal hpending
    have hblank : p.blanked = false := h.begun _ hpending rfl
    have hcurrent : ∀ p', d.card.picture = some p' → (p = p' ∧ pal = d.card.palette) ∨ d.AllDirty := by
      intro p' hp'
      refine (h.pending p' hp' (by rw [hpending]; rfl)).imp_left ?_
      rintro ⟨s, hs, hsp, hpal⟩
      cases hpending.symm.trans hs
      exact ⟨hsp, hpal pal rfl⟩
    split
    · refine ⟨h.inlined, ?_, fun p' hp' _ => ?_, h.size, fun p' hp' y hy => ?_⟩
      · rintro s hs -
        cases hs
        exact hblank
      · refine (hcurrent p' hp').imp_left fun hc => ⟨_, rfl, hc.1, ?_⟩
        rintro pal' ⟨⟩
        exact hc.2
      · obtain ⟨rfl, rfl⟩ | hall := hcurrent p' hp'
        · by_cases hnext : y = next
          · refine .inl fun x hx => ?_
            have hwide : x < p.size.1 := by
              unfold Picture.size
              dsimp only
              split <;> omega
            simp only [hnext, hwide, Picture.look, hblank, and_self, if_true, Bool.false_eq_true, if_false]
          · obtain hright | hd | ⟨s, hs, hin⟩ := h.rows p hp' y hy
            · refine .inl fun x hx => ?_
              simp only [hnext, false_and, if_false]
              exact hright x hx
            · exact .inr (.inl hd)
            · cases hpending.symm.trans hs
              refine .inr (.inr ⟨_, rfl, hin.imp_right fun hin => ⟨?_, hin.2⟩⟩)
              have hle := hin.1
              dsimp only at hle ⊢
              omega
        · exact .inr (.inl (rowDirty_of_allDirty hall hp' y))
    · refine ⟨h.inlined, fun s hs => by simp at hs, fun p' hp' hsome => by simp at hsome, h.size,
        fun p' hp' y hy => ?_⟩
      obtain hright | hd | ⟨s, hs, hin⟩ := h.rows p' hp' y hy
      · exact .inl hright
      · exact .inr (.inl hd)
      · cases hpending.symm.trans hs
        simp only [hblank, Bool.false_eq_true, false_or] at hin
        omega
  · exact h

/-- With the other display pending, or none of the card's, all of the card's is to be redrawn. -/
lemma Covered.vidc (h : d.Covered) (hpending : d.pending = some .vidc) (hcard : d'.card = d.card)
    (hstore : d'.store = d.store) (hinlined : d'.inlined = d.inlined) (hnew : ∀ s, d'.pending ≠ some (.card s)) :
    d'.Covered := by
  have hbegun : ∀ s, d'.pending = some (.card s) → s.hostPal.isSome = true → s.picture.blanked = false :=
    fun s hs => absurd hs (hnew s)
  cases hp : d.card.picture with
  | none => exact covered_of_none (by rw [hcard, hp]) (by rw [hinlined, hstore]; exact h.inlined) hbegun
  | some p =>
    obtain ⟨s, hs, -⟩ | hall := h.pending p hp (by rw [hpending]; rfl)
    · exact absurd (hpending.symm.trans hs) (by simp)
    · exact covered_of_allDirty (by rw [AllDirty, hstore]; exact hall) hbegun

end Display

open Display

end RpcEmu.Gfx
