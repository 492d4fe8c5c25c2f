import RpcEmu.Lib.Runs
import RpcEmu.Lib.Stream

/-!
# The graphics card's interrupt line

The registers of `gfxcard.c`, and the interrupt line of its expansion card.

* **The line is not a register.**  It is the `irq` of the card's slot in the backplane, raised at a vsync and
  lowered when a register is written; `gfxcard_loadstate` alone works it out from the registers.
* **`LineRight`** is what the registers say of it, and `Restores` that a snapshot gives the line back;
  `restores_iff` makes them one.  `lineRight_step` says which events keep it.
* **The gaps.**  A vsync that is not to interrupt still sets the status, and CTRL written after it does not
  raise the line; and a reset clears the registers and leaves the line.

The framestore, the pages of it that changed and what `gfxcard_render` draws are not in the model.
-/

namespace RpcEmu.Gfx

open Streams

/-! ## The card -/

def ctrlEnable : UInt32 := 1

def ctrlBlank : UInt32 := 2

def ctrlVsyncIrq : UInt32 := 4

def statusVsync : UInt32 := 1

def pixfmt565 : UInt32 := 0

def pixfmt555 : UInt32 := 1

def ptrCtrlShow : UInt32 := 1

def ptrMaxWidth : UInt32 := 8

def ptrMaxHeight : UInt32 := 32

def edidBlockSize : UInt32 := 128

/-- `gfx`, and the `irq` of its slot where it has one. -/
structure GfxCard where
  /-- Whether `gfx.podule` and `gfxcard_fb` are there. -/
  fitted : Bool
  irq : Bool
  slot : UInt32
  easiPhys : UInt32
  ctrl : UInt32
  status : UInt32
  width : UInt32
  height : UInt32
  bpp : UInt32
  pixfmt : UInt32
  stride : UInt32
  start : UInt32
  palIndex : UInt32
  frames : UInt32
  edidIndex : UInt32
  ptrCtrl : UInt32
  ptrX : UInt32
  ptrY : UInt32
  ptrWidth : UInt32
  ptrHeight : UInt32
  ptrPhys : UInt32
  ptrPalIndex : UInt32
  ptrPalette : Vector UInt32 4
  palette : Vector UInt32 256
  renderX : UInt32
  renderY : UInt32
  renderW : UInt32
  renderH : UInt32
  renderSrcX : UInt32
  renderSrcY : UInt32
  renderPatIndex : UInt32
  renderPattern : Vector UInt32 16

inductive Reg where
  | ctrl | status | width | height | bpp | stride | start | palIndex | palEntry | edidIndex | ptrCtrl | ptrX | ptrY
  | ptrWidth | ptrHeight | ptrPhys | ptrPalIdx | ptrPal | renderOp | renderX | renderY | renderW | renderH
  | renderSrcX | renderSrcY | renderPatIdx | renderPat | pixfmt
  deriving DecidableEq, Repr

/-- `GFXCARD_REG_*`. -/
def Reg.number : Reg → Nat
  | ctrl => 5 | status => 6 | width => 7 | height => 8 | bpp => 9 | stride => 10 | start => 11 | palIndex => 12
  | palEntry => 13 | edidIndex => 18 | ptrCtrl => 20 | ptrX => 21 | ptrY => 22 | ptrWidth => 23 | ptrHeight => 24
  | ptrPhys => 25 | ptrPalIdx => 26 | ptrPal => 27 | renderOp => 29 | renderX => 30 | renderY => 31 | renderW => 32
  | renderH => 33 | renderSrcX => 34 | renderSrcY => 35 | renderPatIdx => 36 | renderPat => 37 | pixfmt => 38

def writable : List Reg :=
  [.ctrl, .status, .width, .height, .bpp, .stride, .start, .palIndex, .palEntry, .edidIndex, .ptrCtrl, .ptrX, .ptrY,
    .ptrWidth, .ptrHeight, .ptrPhys, .ptrPalIdx, .ptrPal, .renderOp, .renderX, .renderY, .renderW, .renderH,
    .renderSrcX, .renderSrcY, .renderPatIdx, .renderPat, .pixfmt]

def regBase : UInt32 := 0x80000

def regCount : UInt32 := 39

/-- `gfxcard_reg_number`: none for the `-1`. -/
def gfxcardRegNumber (addr : UInt32) : Option Nat :=
  if addr < regBase ∨ addr &&& 3 ≠ 0 then none
  else if (addr - regBase) >>> 2 < regCount then some ((addr - regBase) >>> 2).toNat
  else none

/-- `gfxcard_reg_write`, without what it draws. -/
def gfxcardRegWrite (g : GfxCard) (reg : Reg) (val : UInt32) : GfxCard :=
  match reg with
  | .ctrl =>
    let g := { g with ctrl := val &&& (ctrlEnable ||| ctrlBlank ||| ctrlVsyncIrq) }
    if g.ctrl &&& ctrlVsyncIrq = 0 then
      { g with status := g.status &&& ~~~statusVsync, irq := if g.fitted then false else g.irq }
    else g
  | .status =>
    let g := { g with status := g.status &&& ~~~val }
    if g.status &&& statusVsync = 0 ∧ g.fitted then { g with irq := false } else g
  | .width => { g with width := val }
  | .height => { g with height := val }
  | .bpp => { g with bpp := val }
  | .pixfmt => { g with pixfmt := if val = pixfmt555 then pixfmt555 else pixfmt565 }
  | .stride => { g with stride := val }
  | .start => { g with start := val }
  | .palIndex => { g with palIndex := val &&& 0xff }
  | .edidIndex => { g with edidIndex := if val < edidBlockSize then val else edidBlockSize }
  | .ptrCtrl => { g with ptrCtrl := val &&& ptrCtrlShow }
  | .ptrX => { g with ptrX := val }
  | .ptrY => { g with ptrY := val }
  | .ptrPhys => { g with ptrPhys := val }
  | .ptrWidth => { g with ptrWidth := if val ≤ ptrMaxWidth then val else ptrMaxWidth }
  | .ptrHeight => { g with ptrHeight := if val ≤ ptrMaxHeight then val else ptrMaxHeight }
  | .ptrPalIdx => { g with ptrPalIndex := val &&& 3 }
  | .ptrPal =>
    let entry := g.ptrPalIndex &&& 3
    { g with
      ptrPalette := if entry ≠ 0 then g.ptrPalette.setIfInBounds entry.toNat val else g.ptrPalette
      ptrPalIndex := (g.ptrPalIndex + 1) &&& 3 }
  | .renderX => { g with renderX := val }
  | .renderY => { g with renderY := val }
  | .renderW => { g with renderW := val }
  | .renderH => { g with renderH := val }
  | .renderSrcX => { g with renderSrcX := val }
  | .renderSrcY => { g with renderSrcY := val }
  | .renderPatIdx => { g with renderPatIndex := val &&& 15 }
  | .renderPat =>
    { g with
      renderPattern := g.renderPattern.setIfInBounds g.renderPatIndex.toNat val
      renderPatIndex := (g.renderPatIndex + 1) &&& 15 }
  -- what a rectangle operation changes is the framestore
  | .renderOp => g
  | .palEntry =>
    { g with
      palette := g.palette.setIfInBounds g.palIndex.toNat val
      palIndex := (g.palIndex + 1) &&& 0xff }

/-- `PoduleIoType`. -/
inductive PoduleIoType where
  | ioc | memc | easi
  deriving DecidableEq, Repr

/-- `gfxcard_writel`, as far as it is a register that is written. -/
def gfxcardWritel (g : GfxCard) (ioType : PoduleIoType) (addr val : UInt32) : GfxCard :=
  if ioType ≠ .easi then g
  else
    match (gfxcardRegNumber addr).bind fun n => writable.find? fun reg => reg.number = n with
    | some reg => gfxcardRegWrite g reg val
    | none => g

/-- `gfxcard_podule_reset`. -/
def gfxcardPoduleReset (g : GfxCard) : GfxCard :=
  { g with
    ctrl := 0, status := 0, width := 0, height := 0, bpp := 0, pixfmt := pixfmt565, stride := 0, start := 0
    palIndex := 0, frames := 0, edidIndex := 0
    ptrCtrl := 0, ptrX := 0, ptrY := 0, ptrWidth := 0, ptrHeight := 0, ptrPhys := 0, ptrPalIndex := 1
    renderX := 0, renderY := 0, renderW := 0, renderH := 0, renderSrcX := 0, renderSrcY := 0, renderPatIndex := 0
    renderPattern := Vector.replicate 16 0
    ptrPalette := #v[0, 0xffffff00, 0x00000000, 0x8080ff00] }

/-- `gfxcard_reset`. -/
def gfxcardReset (g : GfxCard) : GfxCard := if g.fitted then gfxcardPoduleReset g else g

/-- `podules_reset`, as far as this card is concerned: its own reset, and then every slot is blanked. -/
def podulesReset (g : GfxCard) : GfxCard := { gfxcardReset g with irq := false }

/-- `gfxcard_init`: the slot is the one that `addpodule` gives, if the card is enabled and gets so far. -/
def gfxcardInit (g : GfxCard) (slot : Option UInt32) : GfxCard :=
  let g := { g with fitted := false, slot := 0xffffffff }
  match slot with
  | none => g
  | some n =>
    gfxcardPoduleReset { g with
      fitted := true, slot := n, easiPhys := 0x08000000 + n * 0x01000000
      palette := Vector.ofFn fun i : Fin 256 =>
        (UInt32.ofNat i <<< 8) ||| (UInt32.ofNat i <<< 16) ||| (UInt32.ofNat i <<< 24) }

/-- `gfxcard_vsync`. -/
def gfxcardVsync (g : GfxCard) : GfxCard :=
  if !g.fitted ∨ g.ctrl &&& ctrlEnable = 0 then g
  else
    let g := { g with frames := g.frames + 1, status := g.status ||| statusVsync }
    if g.ctrl &&& ctrlVsyncIrq ≠ 0 then { g with irq := true } else g

/-! ## Saving and loading -/

def firstWords (g : GfxCard) : List UInt32 :=
  [g.slot, g.easiPhys, g.ctrl, g.status, g.width, g.height, g.bpp, g.pixfmt, g.stride, g.start, g.palIndex, g.frames,
    g.edidIndex, g.ptrCtrl, g.ptrX, g.ptrY, g.ptrWidth, g.ptrHeight, g.ptrPhys, g.ptrPalIndex]

def renderWords (g : GfxCard) : List UInt32 :=
  [g.renderX, g.renderY, g.renderW, g.renderH, g.renderSrcX, g.renderSrcY, g.renderPatIndex]

/-- `gfxcard_savestate`, up to the framestore. -/
def gfxcardSavestate (g : GfxCard) : List UInt8 :=
  if g.fitted then
    u32Bytes 1 ++ u32sBytes (firstWords g ++ (g.ptrPalette.toList ++ (g.palette.toList ++
      (renderWords g ++ g.renderPattern.toList))))
  else u32Bytes 0

def snapshotVersion : UInt32 := 9

def snapshotVersionGfxPixfmt : UInt32 := 9

def arrayOf (n : Nat) (words : List UInt32) : Vector UInt32 n := Vector.ofFn fun i => words.getD i 0

/-- The end of `gfxcard_loadstate`: the line as the registers say. -/
def lineFromRegisters (g : GfxCard) : GfxCard :=
  { g with irq := g.ctrl &&& ctrlVsyncIrq ≠ 0 ∧ g.status &&& statusVsync ≠ 0 }

def loadOthers (version : UInt32) (g : GfxCard) : Read GfxCard := do
  let width ← readU32
  let height ← readU32
  let bpp ← readU32
  let pixfmt ← if snapshotVersionGfxPixfmt ≤ version then readU32 else pure pixfmt565
  let stride ← readU32
  let start ← readU32
  let palIndex ← readU32
  let frames ← readU32
  let edidIndex ← readU32
  let ptrCtrl ← readU32
  let ptrX ← readU32
  let ptrY ← readU32
  let ptrWidth ← readU32
  let ptrHeight ← readU32
  let ptrPhys ← readU32
  let ptrPalIndex ← readU32
  let ptrPalette ← readU32s 4
  let palette ← readU32s 256
  let renderX ← readU32
  let renderY ← readU32
  let renderW ← readU32
  let renderH ← readU32
  let renderSrcX ← readU32
  let renderSrcY ← readU32
  let renderPatIndex ← readU32
  let renderPattern ← readU32s 16
  pure (lineFromRegisters { g with
    width := width, height := height, bpp := bpp
    pixfmt := if pixfmt = pixfmt555 then pixfmt555 else pixfmt565
    stride := stride, start := start, palIndex := palIndex &&& 0xff, frames := frames
    edidIndex := if edidBlockSize < edidIndex then edidBlockSize else edidIndex
    ptrCtrl := ptrCtrl &&& ptrCtrlShow, ptrX := ptrX, ptrY := ptrY
    ptrWidth := if ptrMaxWidth < ptrWidth then ptrMaxWidth else ptrWidth
    ptrHeight := if ptrMaxHeight < ptrHeight then ptrMaxHeight else ptrHeight
    ptrPhys := ptrPhys, ptrPalIndex := ptrPalIndex &&& 3, ptrPalette := arrayOf 4 ptrPalette
    palette := arrayOf 256 palette
    renderX := renderX, renderY := renderY, renderW := renderW, renderH := renderH
    renderSrcX := renderSrcX, renderSrcY := renderSrcY, renderPatIndex := renderPatIndex &&& 15
    renderPattern := arrayOf 16 renderPattern })

/-- `gfxcard_loadstate`, up to the framestore and without the log.  The slot and the address are those that
the machine has. -/
def gfxcardLoadstate (version : UInt32) (g : GfxCard) : Read GfxCard := do
  let present ← readU32
  let failed ← failed
  if failed ∨ present = 0 then pure g
  else if !g.fitted then do
    Effects.Prog.perform ReadOp.fail
    pure g
  else do
    let _slot ← readU32
    let _easiPhys ← readU32
    let ctrl ← readU32
    let status ← readU32
    loadOthers version { g with
      ctrl := ctrl &&& (ctrlEnable ||| ctrlBlank ||| ctrlVsyncIrq), status := status &&& statusVsync }

/-! ## The line and the registers -/

/-- The card has an interrupt on and a flyback to tell. -/
def asks (g : GfxCard) : Prop := g.ctrl &&& ctrlVsyncIrq ≠ 0 ∧ g.status &&& statusVsync ≠ 0

instance (g : GfxCard) : Decidable (asks g) := inferInstanceAs (Decidable (_ ∧ _))

/-- **The line says what the registers say**, where there is a card. -/
def LineRight (g : GfxCard) : Prop := g.fitted = true → (g.irq = true ↔ asks g)

instance (g : GfxCard) : Decidable (LineRight g) := inferInstanceAs (Decidable (_ → _))

/-- A snapshot taken here brings the line back as it is. -/
def Restores (g : GfxCard) : Prop :=
  ∀ (t : GfxCard) (rest : List UInt8), t.fitted = true →
    ((gfxcardLoadstate snapshotVersion t).run handler (Stream.opened (gfxcardSavestate g ++ rest))).1.irq = g.irq

/-! ## What happens to the card -/

inductive Event where
  | writel (ioType : PoduleIoType) (addr val : UInt32)
  | vsync
  /-- The card's own reset. -/
  | reset
  /-- A reset of the machine, in which the card gets a slot or none. -/
  | machineReset (slot : Option UInt32)
  /-- A snapshot is loaded, from wherever it is being read. -/
  | load (version : UInt32) (file : Stream)

def step (g : GfxCard) : Event → GfxCard
  | .writel ioType addr val => if g.fitted then gfxcardWritel g ioType addr val else g
  | .vsync => gfxcardVsync g
  | .reset => gfxcardReset g
  | .machineReset slot => gfxcardInit (podulesReset g) slot
  | .load version file => ((gfxcardLoadstate version g).run handler file).1

def target (ioType : PoduleIoType) (addr : UInt32) : Option Reg :=
  if ioType ≠ .easi then none else (gfxcardRegNumber addr).bind fun n => writable.find? fun reg => reg.number = n

/-- The interrupt is not switched on over an old flyback, nor reset while it asks. -/
def Timely (g : GfxCard) : Event → Prop
  | .writel ioType addr val =>
    g.fitted = true → target ioType addr = some .ctrl → val &&& ctrlVsyncIrq ≠ 0 → g.status &&& statusVsync ≠ 0 →
      g.ctrl &&& ctrlVsyncIrq ≠ 0
  | .reset => g.fitted = true → ¬asks g
  | _ => True

lemma gfxcardWritel_eq (g : GfxCard) (ioType : PoduleIoType) (addr val : UInt32) :
    gfxcardWritel g ioType addr val = ((target ioType addr).map fun reg => gfxcardRegWrite g reg val).getD g := by
  unfold gfxcardWritel target
  split
  next => rfl
  next =>
    split
    next h => rw [h]; rfl
    next h => rw [h]; rfl

lemma masked_irq (val : UInt32) : val &&& (ctrlEnable ||| ctrlBlank ||| ctrlVsyncIrq) &&& ctrlVsyncIrq = val &&& ctrlVsyncIrq := by
  rw [UInt32.and_assoc]
  rfl

lemma masked_vsync (val : UInt32) : val &&& statusVsync &&& statusVsync = val &&& statusVsync := by
  rw [UInt32.and_assoc]
  rfl

lemma masked_of_masked {a b c : UInt32} (h : (a &&& b) &&& c ≠ 0) : a &&& c ≠ 0 := by
  intro hzero
  rw [UInt32.and_assoc, UInt32.and_comm b, ← UInt32.and_assoc, hzero, UInt32.zero_and] at h
  exact h rfl

lemma raised_vsync (status : UInt32) : (status ||| statusVsync) &&& statusVsync ≠ 0 := by
  intro hzero
  have hbit := congrArg (fun w : UInt32 => w.toBitVec.getLsbD 0) hzero
  simp [statusVsync] at hbit

lemma asks_masked (g : GfxCard) :
    asks { g with
      ctrl := g.ctrl &&& (ctrlEnable ||| ctrlBlank ||| ctrlVsyncIrq), status := g.status &&& statusVsync } ↔ asks g := by
  rw [asks, asks, masked_irq, masked_vsync]

/-! ## What a snapshot gives back -/

section Restores

variable (g t : GfxCard)

lemma loadOthers_line (version : UInt32) :
    Always (loadOthers version g) fun r => r.irq = decide (asks g) ∧ (asks r ↔ asks g) := by
  unfold loadOthers
  iterate 3 refine Always.bind fun _ => ?_
  split
  all_goals
    iterate 23 refine Always.bind fun _ => ?_
    exact Always.pure ⟨rfl, Iff.rfl⟩

lemma loadstate_gives (hg : g.fitted = true) (ht : t.fitted = true) :
    Gives (gfxcardLoadstate snapshotVersion t) (gfxcardSavestate g) fun r => r.irq = decide (asks g) := by
  have hhere : ¬((false : Bool) = true ∨ (1 : UInt32) = 0) := by decide
  have hfitted : ¬(!t.fitted) = true := by simp [ht]
  rw [gfxcardSavestate, if_pos hg]
  refine Gives.bind (Reads.u32 1) (Gives.bind Reads.failed ?_ : Gives _ ([] ++ _) _)
  rw [if_neg hhere, if_neg hfitted]
  refine Gives.bind (Reads.u32 g.slot) (Gives.bind (Reads.u32 g.easiPhys) (Gives.bind (Reads.u32 g.ctrl)
    (Gives.bind (Reads.u32 g.status) (Always.gives ?_ _))))
  intro s
  rw [(loadOthers_line _ _ s).1]
  exact decide_eq_decide.mpr (asks_masked { t with ctrl := g.ctrl, status := g.status })

lemma restores_iff (hg : g.fitted = true) : Restores g ↔ LineRight g := by
  have hloaded : ∀ (t : GfxCard) (rest : List UInt8), t.fitted = true →
      ((gfxcardLoadstate snapshotVersion t).run handler (Stream.opened (gfxcardSavestate g ++ rest))).1.irq
        = decide (asks g) :=
    fun t rest ht => loadstate_gives g t hg ht (Stream.opened _) rest rfl rfl
  constructor
  · intro h _
    rw [← h g [] hg, hloaded g [] hg, decide_eq_true_iff]
  · intro h t rest ht
    rw [hloaded t rest ht, Bool.eq_iff_iff, decide_eq_true_iff]
    exact (h hg).symm

lemma lineRight_loadstate (version : UInt32) :
    Always (gfxcardLoadstate version g) fun r => r = g ∨ LineRight r := by
  unfold gfxcardLoadstate
  refine Always.bind fun present => Always.bind fun failed => ?_
  split
  · exact Always.pure (.inl rfl)
  · split
    · exact Always.bind fun _ => Always.pure (.inl rfl)
    · refine Always.bind fun _ => Always.bind fun _ => Always.bind fun ctrl => Always.bind fun status => ?_
      intro s
      obtain ⟨hline, hasks⟩ := loadOthers_line { g with
        ctrl := ctrl &&& (ctrlEnable ||| ctrlBlank ||| ctrlVsyncIrq), status := status &&& statusVsync } version s
      refine .inr fun _ => ?_
      rw [hline, decide_eq_true_iff, hasks]

end Restores

/-! ## What each event does to the line -/

section Step

variable (g : GfxCard)

lemma regWrite_other {reg : Reg} (val : UInt32) (hctrl : reg ≠ .ctrl) (hstatus : reg ≠ .status) :
    (gfxcardRegWrite g reg val).fitted = g.fitted ∧ (gfxcardRegWrite g reg val).irq = g.irq ∧
      (gfxcardRegWrite g reg val).ctrl = g.ctrl ∧ (gfxcardRegWrite g reg val).status = g.status := by
  cases reg
  case ctrl => exact absurd rfl hctrl
  case status => exact absurd rfl hstatus
  all_goals exact ⟨rfl, rfl, rfl, rfl⟩

lemma lineRight_ctrl (val : UInt32) (hg : g.fitted = true) (hright : LineRight g) :
    LineRight (gfxcardRegWrite g .ctrl val) ↔
      (val &&& ctrlVsyncIrq ≠ 0 → g.status &&& statusVsync ≠ 0 → g.ctrl &&& ctrlVsyncIrq ≠ 0) := by
  have hline := hright hg
  simp only [gfxcardRegWrite, masked_irq, hg]
  by_cases hval : val &&& ctrlVsyncIrq = 0
  · simp [LineRight, asks, hval, masked_irq]
  · simp [LineRight, asks, hval, masked_irq, hline]

lemma lineRight_status (val : UInt32) (hright : LineRight g) : LineRight (gfxcardRegWrite g .status val) := by
  intro hfitted
  by_cases hclear : g.status &&& ~~~val &&& statusVsync = 0
  · have hg : g.fitted = true := by
      simpa [gfxcardRegWrite, apply_ite GfxCard.fitted] using hfitted
    simp [gfxcardRegWrite, asks, hclear, hg]
  · have hold : g.status &&& statusVsync ≠ 0 := masked_of_masked hclear
    have hwritten : gfxcardRegWrite g .status val = { g with status := g.status &&& ~~~val } := by
      simp [gfxcardRegWrite, hclear]
    rw [hwritten] at hfitted ⊢
    have hline := hright hfitted
    simp only [asks] at hline ⊢
    rw [hline]
    simp only [hold, hclear, ne_eq, not_false_eq_true, and_true]

lemma lineRight_vsync (hright : LineRight g) : LineRight (gfxcardVsync g) := by
  unfold gfxcardVsync
  split
  · exact hright
  · dsimp only
    split
    next hirq =>
      intro _
      exact ⟨fun _ => ⟨hirq, raised_vsync g.status⟩, fun _ => rfl⟩
    next hirq =>
      -- the line was not raised, and is not: VSYNC_IRQ is clear
      intro hg
      refine (hright hg).trans ⟨fun h => absurd h.1 hirq, fun h => absurd h.1 hirq⟩

lemma lineRight_reset (hg : g.fitted = true) (hright : LineRight g) : LineRight (gfxcardReset g) ↔ ¬asks g := by
  have hdown : ¬asks (gfxcardReset g) := by
    rw [gfxcardReset, if_pos hg]
    exact fun h => h.1 UInt32.zero_and
  have hkept : (gfxcardReset g).fitted = g.fitted ∧ (gfxcardReset g).irq = g.irq := by
    rw [gfxcardReset, if_pos hg]
    exact ⟨rfl, rfl⟩
  rw [LineRight, hkept.1, hkept.2, hright hg]
  simp [hg, hdown]

lemma lineRight_machineReset (slot : Option UInt32) : LineRight (gfxcardInit (podulesReset g) slot) := by
  intro hg
  cases slot with
  | none => exact Bool.noConfusion hg
  | some n => exact ⟨fun h => Bool.noConfusion h, fun h => absurd UInt32.zero_and h.1⟩

lemma lineRight_writel (ioType : PoduleIoType) (addr val : UInt32) (hg : g.fitted = true) (hright : LineRight g) :
    LineRight (gfxcardWritel g ioType addr val) ↔ Timely g (.writel ioType addr val) := by
  rw [gfxcardWritel_eq, Timely]
  cases htarget : target ioType addr with
  | none => simpa using hright
  | some reg =>
    by_cases hctrl : reg = .ctrl
    · subst hctrl
      simpa [hg] using lineRight_ctrl g val hg hright
    · by_cases hstatus : reg = .status
      · subst hstatus
        simpa using lineRight_status g val hright
      · obtain ⟨hfitted, hirq, hc, hs⟩ := regWrite_other g val hctrl hstatus
        have hsame : LineRight (gfxcardRegWrite g reg val) ↔ LineRight g := by
          rw [LineRight, LineRight, asks, asks, hfitted, hirq, hc, hs]
        simpa [hctrl, hsame] using hright

/-- **An event leaves the line right exactly when it is timely.** -/
lemma lineRight_step (e : Event) (hright : LineRight g) : LineRight (step g e) ↔ Timely g e := by
  cases e with
  | writel ioType addr val =>
    by_cases hg : g.fitted = true
    · rw [step, if_pos hg]
      exact lineRight_writel g ioType addr val hg hright
    · rw [step, if_neg hg]
      exact ⟨fun _ h => absurd h hg, fun _ => hright⟩
  | vsync => exact ⟨fun _ => trivial, fun _ => lineRight_vsync g hright⟩
  | reset =>
    by_cases hg : g.fitted = true
    · exact (lineRight_reset g hg hright).trans ⟨fun h _ => h, fun h => h hg⟩
    · have hsame : step g .reset = g := if_neg hg
      rw [hsame]
      exact ⟨fun _ h => absurd h hg, fun _ => hright⟩
  | machineReset slot => exact ⟨fun _ => trivial, fun _ => lineRight_machineReset g slot⟩
  | load version file =>
    refine ⟨fun _ => trivial, fun _ => ?_⟩
    obtain h | h := lineRight_loadstate g version file
    · exact (congrArg LineRight h).mpr hright
    · exact h

end Step

/-- The line is right, and so would a snapshot's be. -/
def SaysRight (g : GfxCard) : Prop := LineRight g ∧ (g.fitted = true → Restores g)

lemma saysRight_iff (g : GfxCard) : SaysRight g ↔ LineRight g :=
  ⟨And.left, fun h => ⟨h, fun hg => (restores_iff g hg).mpr h⟩⟩

/-- **The line says what the registers say**, after every event of a run from a reset of the machine, and a
snapshot gives it back, exactly when every event of the run is timely. -/
theorem line_right_along_iff (g : GfxCard) (slot : Option UInt32) (es : List Event) :
    Runs.Along step Timely (step g (.machineReset slot)) es ↔
      Runs.Along step (fun g e => SaysRight (step g e)) (step g (.machineReset slot)) es := by
  refine Runs.along_iff_of_inv (I := LineRight) ?_ ?_ es _ (lineRight_machineReset g slot)
  · intro g e hright htimely
    exact (lineRight_step g e hright).mpr htimely
  · intro g e hright
    rw [saysRight_iff, lineRight_step g e hright]

def resetCard : GfxCard :=
  gfxcardInit
    { fitted := false, irq := false, slot := 0, easiPhys := 0, ctrl := 0, status := 0, width := 0, height := 0, bpp := 0
      pixfmt := 0, stride := 0, start := 0, palIndex := 0, frames := 0, edidIndex := 0, ptrCtrl := 0, ptrX := 0
      ptrY := 0, ptrWidth := 0, ptrHeight := 0, ptrPhys := 0, ptrPalIndex := 0, ptrPalette := Vector.replicate 4 0
      palette := Vector.replicate 256 0, renderX := 0, renderY := 0, renderW := 0, renderH := 0, renderSrcX := 0
      renderSrcY := 0, renderPatIndex := 0, renderPattern := Vector.replicate 16 0 }
    (some 0)

theorem line_wrong :
    ¬LineRight (Runs.exec step resetCard
        [.writel .easi 0x80014 1, .vsync, .writel .easi 0x80014 5]) ∧
      ¬LineRight (Runs.exec step resetCard [.writel .easi 0x80014 5, .vsync, .reset]) := by
  decide

end RpcEmu.Gfx
