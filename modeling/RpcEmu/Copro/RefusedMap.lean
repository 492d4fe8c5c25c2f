import RpcEmu.Copro.ControlArea

/-!
# A refused map, and a refused log

A map is put into use by two register writes, its offset and then its count, and the card refuses a
pair that does not fit.  What is meant to follow a refusal is nothing: the map in use is left alone.

**The gap.**  The offset is taken at its own write, before the pair is judged, so a refused pair
leaves the old count reading at the new offset.  It changes nothing exactly when the offset written
is the one in use (`refused_pairs_iff`): for any other there are contents of the control area that
decode differently, `markedCtl`, which makes one address a bus error and is blank otherwise.
-/

namespace RpcEmu

open Bytes

variable {σ η : Type} (ops : CoreOps σ) (host : HostBus η)

def mapPair (cp : Coproc σ η) (size : OpenbusSize) (offset count : UInt32) : Coproc σ η :=
  coprocRegWrite ops host (coprocRegWrite ops host cp 0x58 size offset) 0x5c size count

def logPair (cp : Coproc σ η) (size : OpenbusSize) (offset entries : UInt32) : Coproc σ η :=
  coprocRegWrite ops host (coprocRegWrite ops host cp 0x60 size offset) 0x64 size entries

def Coproc.withCtl (cp : Coproc σ η) (ctl : Block) : Coproc σ η := cp.setBus { cp.bus with ctl := ctl }

/-- Every address, in both spaces, is read and written as it was. -/
def SameDecode (bus bus' : CoproBus) : Prop :=
  ∀ addr isPort, readEffect bus' addr isPort = readEffect bus addr isPort ∧
    writeEffect bus' addr isPort = writeEffect bus addr isPort

/-- A map of at least one entry, inside the control area. -/
structure MapInUse (bus : CoproBus) : Prop where
  present : bus.ctlPresent = true
  size : bus.ctlSize = openbusCoprocCtlSize
  used : bus.mapCount ≠ 0
  fits : bus.mapOff.toNat + 16 * bus.mapCount.toNat ≤ bus.ctlSize.toNat

/-! ## What a refused pair does -/

lemma coproBusSetMap_refused {bus : CoproBus} {offset count : UInt32}
    (h : (coproBusSetMap bus offset count).1 = false) :
    (coproBusSetMap bus offset count).2 = bus := by
  unfold coproBusSetMap at h ⊢
  split_ifs at h ⊢ <;> rfl

lemma coproBusSetLog_refused {bus : CoproBus} {offset entries : UInt32}
    (h : (coproBusSetLog bus offset entries).1 = false) :
    (coproBusSetLog bus offset entries).2 = bus := by
  unfold coproBusSetLog at h ⊢
  split_ifs at h ⊢ <;> rfl

lemma coproBusSetMap_fst_congr {bus bus' : CoproBus} (hp : bus'.ctlPresent = bus.ctlPresent)
    (hs : bus'.ctlSize = bus.ctlSize) (offset count : UInt32) :
    (coproBusSetMap bus' offset count).1 = (coproBusSetMap bus offset count).1 := by
  unfold coproBusSetMap
  rw [hp, hs]
  split_ifs <;> rfl

lemma mapPair_bus_of_refused {cp : Coproc σ η} {size : OpenbusSize} {offset count : UInt32}
    (h : (coproBusSetMap { cp.bus with mapOff := offset } offset count).1 = false) :
    (mapPair ops host cp size offset count).bus = { cp.bus with mapOff := offset } := by
  have hoff : (coprocRegWrite ops host cp 0x58 size offset).bus
      = { cp.bus with mapOff := offset } := coprocRegWrite_bus ops host cp 0x58 size offset
  have hpair := coprocRegWrite_bus ops host (coprocRegWrite ops host cp 0x58 size offset) 0x5c size
    count
  have hops : regWriteOps ops (coprocRegWrite ops host cp 0x58 size offset) 0x5c size count
      = [.mapCount count] := by
    show BusOp.mapCount count :: _ = _
    rw [hoff, h]
    rfl
  rw [hops, hoff] at hpair
  exact hpair.trans (coproBusSetMap_refused h)

lemma logPair_bus_of_refused {cp : Coproc σ η} {size : OpenbusSize} {offset entries : UInt32}
    (h : (coproBusSetLog { cp.bus with logOff := offset } offset entries).1 = false) :
    (logPair ops host cp size offset entries).bus = { cp.bus with logOff := offset } := by
  have hoff : (coprocRegWrite ops host cp 0x60 size offset).bus
      = { cp.bus with logOff := offset } := coprocRegWrite_bus ops host cp 0x60 size offset
  have hpair : (logPair ops host cp size offset entries).bus
      = (coproBusSetLog (coprocRegWrite ops host cp 0x60 size offset).bus
          (coprocRegWrite ops host cp 0x60 size offset).bus.logOff entries).2 :=
    coprocRegWrite_bus ops host (coprocRegWrite ops host cp 0x60 size offset) 0x64 size entries
  rw [hoff] at hpair
  exact hpair.trans (coproBusSetLog_refused h)

/-! ## Contents that tell two offsets apart -/

/-- A blank control area but for one entry, at `e`: one byte of memory, at address 0, that is not
there. -/
def markedCtl (e : UInt32) : Block := fun b => if b = e + 4 then 1 else if b = e + 8 then 5 else 0

lemma word_and_ff (b0 b1 b2 b3 : UInt8) : word b0 b1 b2 b3 &&& 0xff = b0.toUInt32 := by
  apply UInt32.eq_of_toBitVec_eq
  apply BitVec.eq_of_getLsbD_eq
  intro i hi
  simp only [word, UInt32.toBitVec_and, UInt32.toBitVec_or, UInt8.toBitVec_toUInt32,
    UInt32.toBitVec_shiftLeft]
  interval_cases i <;> simp

lemma unmapped_of_busError {bus : CoproBus} {addr : UInt32} {isPort : Bool}
    (h : (readEffect bus addr isPort).1 = .busError) :
    ∃ j < bus.mapCount.toNat,
      coproRegionKind (ctlWord bus (regionEntry bus j + 8)) = .unmapped := by
  revert h
  unfold readEffect
  cases hr : coproBusRegion bus addr isPort with
  | none => simp
  | some e =>
    intro h
    have he : e ∈ coproBusRegionFrom bus addr isPort 0 bus.mapCount.toNat := by
      rw [coproBusRegion] at hr
      split_ifs at hr
      exact hr
    obtain ⟨j, hj, rfl⟩ := mem_coproBusRegionFrom he
    refine ⟨j, by omega, ?_⟩
    revert h
    change _ → coproRegionKind (regionFields bus (regionEntry bus j)).kind = _
    dsimp only
    cases coproRegionKind (regionFields bus (regionEntry bus j)).kind <;> simp

lemma readEffect_unmarked {bus : CoproBus} {e : UInt32} (hctl : bus.ctl = markedCtl e)
    (hne : ∀ j < bus.mapCount.toNat, regionEntry bus j ≠ e) (addr : UInt32) (isPort : Bool) :
    (readEffect bus addr isPort).1 ≠ .busError := by
  intro h
  obtain ⟨j, hj, hk⟩ := unmapped_of_busError h
  have hlow : ctlWord bus (regionEntry bus j + 8) &&& 0xff = 0 ∨
      ctlWord bus (regionEntry bus j + 8) &&& 0xff = 1 := by
    rw [ctlWord]
    unfold ctlWordBytes
    split_ifs
    · exact Or.inl (by simp)
    · simp only [word_and_ff, hctl]
      have hb : regionEntry bus j + 8 ≠ e + 8 := fun hc =>
        hne j hj ((UInt32.add_left_inj 8).mp hc)
      unfold markedCtl
      rw [if_neg hb]
      split_ifs
      · exact Or.inr rfl
      · exact Or.inl rfl
  rcases hlow with hlow | hlow <;> simp [coproRegionKind, hlow] at hk

lemma coproBusRegionFrom_first {bus : CoproBus} {addr : UInt32} {isPort : Bool} {m : Nat}
    (hm : regionMatches bus addr isPort (regionEntry bus m) = true) :
    ∀ n i, i ≤ m → m < i + n →
      (∀ j, i ≤ j → j < m → regionMatches bus addr isPort (regionEntry bus j) = false) →
      coproBusRegionFrom bus addr isPort i n = some (regionEntry bus m) := by
  intro n
  induction n with
  | zero => intro i hi hlt; omega
  | succ n ih =>
    intro i hi hlt hbefore
    rw [coproBusRegionFrom]
    rcases Nat.eq_or_lt_of_le hi with rfl | hlt'
    · rw [if_pos hm]
    · rw [if_neg (by rw [hbefore i (Nat.le_refl i) hlt']; decide)]
      exact ih (i + 1) hlt' (by omega) fun j hj hjm => hbefore j (by omega) hjm

lemma readEffect_marked {bus : CoproBus} (h : MapInUse bus) {m : Nat} (hm : m < bus.mapCount.toNat)
    (hctl : bus.ctl = markedCtl (regionEntry bus m)) : (readEffect bus 0 false).1 = .busError := by
  have hfits := h.fits
  have hlt := bus.ctlSize.toNat_lt
  have hentry : ∀ j < bus.mapCount.toNat,
      (regionEntry bus j).toNat = bus.mapOff.toNat + 16 * j := by
    intro j hj
    simp only [regionEntry, UInt32.toNat_add, UInt32.toNat_mul, UInt32.toNat_ofNat',
      UInt32.reduceToNat]
    omega
  have hm' := hentry m hm
  -- the bytes of the table: blank, but for the two of the marked entry
  have hbyte : ∀ j < bus.mapCount.toNat, ∀ k : UInt32, k.toNat < 16 →
      bus.ctl (regionEntry bus j + k)
        = if j = m ∧ k = 4 then 1 else if j = m ∧ k = 8 then 5 else 0 := by
    intro j hj k hk
    have hj' := hentry j hj
    have heq : ∀ c : UInt32, c.toNat < 16 →
        (regionEntry bus j + k = regionEntry bus m + c ↔ j = m ∧ k = c) := by
      intro c hc
      rw [← UInt32.toNat_inj, UInt32.toNat_add, UInt32.toNat_add, ← UInt32.toNat_inj (a := k), hj',
        hm']
      omega
    rw [hctl]
    unfold markedCtl
    simp only [heq 4 (by decide), heq 8 (by decide)]
  have hword : ∀ j < bus.mapCount.toNat, ∀ w : UInt32, w.toNat + 4 ≤ 16 →
      ctlWord bus (regionEntry bus j + w) = word (bus.ctl (regionEntry bus j + w))
        (bus.ctl (regionEntry bus j + (w + 1))) (bus.ctl (regionEntry bus j + (w + 2)))
        (bus.ctl (regionEntry bus j + (w + 3))) := by
    intro j hj w hw
    have hj' := hentry j hj
    rw [ctlWord_of_fits h.present (by rw [UInt32.toNat_add]; omega)]
    simp only [Block.word, UInt32.add_assoc]
  have hsize : ∀ j < bus.mapCount.toNat, j ≠ m → ctlWord bus (regionEntry bus j + 4) = 0 := by
    intro j hj hne
    rw [hword j hj 4 (by decide), hbyte j hj 4 (by decide), hbyte j hj (4 + 1) (by decide),
      hbyte j hj (4 + 2) (by decide), hbyte j hj (4 + 3) (by decide)]
    simp [hne, word]
  have hbase : ctlWord bus (regionEntry bus m) = 0 := by
    have h0 := hword m hm 0 (by decide)
    rw [hbyte m hm 0 (by decide), hbyte m hm (0 + 1) (by decide), hbyte m hm (0 + 2) (by decide),
      hbyte m hm (0 + 3) (by decide), UInt32.add_zero] at h0
    rw [h0]
    simp [word]
  have hsizem : ctlWord bus (regionEntry bus m + 4) = 1 := by
    rw [hword m hm 4 (by decide), hbyte m hm 4 (by decide), hbyte m hm (4 + 1) (by decide),
      hbyte m hm (4 + 2) (by decide), hbyte m hm (4 + 3) (by decide)]
    simp [word]
  have hkind : ctlWord bus (regionEntry bus m + 8) = 5 := by
    rw [hword m hm 8 (by decide), hbyte m hm 8 (by decide), hbyte m hm (8 + 1) (by decide),
      hbyte m hm (8 + 2) (by decide), hbyte m hm (8 + 3) (by decide)]
    simp [word]
  have hmatch : regionMatches bus 0 false (regionEntry bus m) = true := by
    simp only [regionMatches, hbase, hsizem, hkind]
    decide
  have hbefore : ∀ j, 0 ≤ j → j < m → regionMatches bus 0 false (regionEntry bus j) = false := by
    intro j _ hj
    simp only [regionMatches, hsize j (by omega) (by omega)]
    simp [UInt32.not_lt_zero]
  have hreg : coproBusRegion bus 0 false = some (regionEntry bus m) := by
    rw [coproBusRegion, if_neg (by simp [h.used, h.present])]
    exact coproBusRegionFrom_first hmatch _ 0 (Nat.zero_le m) (by omega) hbefore
  simp only [readEffect, hreg, regionFields, hkind]
  rfl

/-! ## Exactly when nothing changes -/

lemma exists_entry_left_out {bus : CoproBus} (h : MapInUse bus) {offset : UInt32}
    (hne : offset ≠ bus.mapOff) :
    ∃ m < bus.mapCount.toNat, ∀ j < bus.mapCount.toNat,
      offset + UInt32.ofNat j * 16 ≠ regionEntry bus m := by
  have hfits := h.fits
  have hsize : bus.ctlSize.toNat = 0x40000 := by
    rw [h.size]
    rfl
  have hpos : 0 < bus.mapCount.toNat :=
    Nat.pos_of_ne_zero fun hz => h.used (UInt32.toNat_inj.mp hz)
  have hoff := offset.toNat_lt
  have hne' : offset.toNat ≠ bus.mapOff.toNat := fun hc => hne (UInt32.toNat_inj.mp hc)
  by_cases hex : ∃ j < bus.mapCount.toNat, offset + UInt32.ofNat j * 16 = bus.mapOff
  · -- the first entry is in the other table too, further on: its last one is not
    obtain ⟨j, hj, hj0⟩ := hex
    have hplace : ∀ i < bus.mapCount.toNat, (UInt32.ofNat i * 16).toNat = 16 * i := by
      intro i hi
      simp only [UInt32.toNat_mul, UInt32.toNat_ofNat', UInt32.reduceToNat]
      omega
    have hj0' := congrArg UInt32.toNat hj0
    rw [UInt32.toNat_add, hplace j hj] at hj0'
    refine ⟨bus.mapCount.toNat - 1, by omega, fun k hk hc => ?_⟩
    have hc' := congrArg UInt32.toNat hc
    rw [regionEntry, UInt32.toNat_add, UInt32.toNat_add, hplace k hk, hplace _ (by omega)] at hc'
    omega
  · refine ⟨0, hpos, fun j hj hc => hex ⟨j, hj, ?_⟩⟩
    rw [hc, regionEntry]
    simp

/-- **A refused pair changes nothing exactly when the offset written is the one in use.**  For a map,
"nothing" is how every address decodes, whatever the control area holds; for a log, where every slot
of the ring is. -/
theorem refused_pairs_iff (cp : Coproc σ η) (size : OpenbusSize) (offset count : UInt32) :
    (MapInUse cp.bus →
      (coproBusSetMap { cp.bus with mapOff := offset } offset count).1 = false →
      ((∀ ctl, SameDecode (cp.withCtl ctl).bus
          (mapPair ops host (cp.withCtl ctl) size offset count).bus)
        ↔ offset = cp.bus.mapOff)) ∧
    (cp.bus.logEntries ≠ 0 →
      (coproBusSetLog { cp.bus with logOff := offset } offset count).1 = false →
      ((∀ i < cp.bus.logEntries,
          logSlot (logPair ops host cp size offset count).bus i = logSlot cp.bus i)
        ↔ offset = cp.bus.logOff)) := by
  constructor
  · intro hmap hrefused
    have hbus : ∀ ctl, (mapPair ops host (cp.withCtl ctl) size offset count).bus
        = { cp.bus with mapOff := offset, ctl := ctl } := by
      intro ctl
      have hr : (coproBusSetMap { (cp.withCtl ctl).bus with mapOff := offset } offset count).1
          = false := by
        rw [← hrefused]
        apply coproBusSetMap_fst_congr
        · rfl
        · rfl
      exact mapPair_bus_of_refused ops host hr
    constructor
    · intro hsame
      by_contra hne
      obtain ⟨m, hm, hout⟩ := exists_entry_left_out hmap hne
      have hdec := (hsame (markedCtl (regionEntry cp.bus m)) 0 false).1
      rw [hbus] at hdec
      have hinuse : MapInUse (cp.withCtl (markedCtl (regionEntry cp.bus m))).bus :=
        ⟨hmap.present, hmap.size, hmap.used, hmap.fits⟩
      have hbefore : (readEffect (cp.withCtl (markedCtl (regionEntry cp.bus m))).bus 0 false).1
          = .busError := readEffect_marked hinuse hm rfl
      rw [← hdec] at hbefore
      exact readEffect_unmarked rfl hout 0 false hbefore
    · rintro rfl ctl addr isPort
      rw [hbus]
      exact ⟨rfl, rfl⟩
  · intro hlog hrefused
    rw [logPair_bus_of_refused ops host hrefused]
    constructor
    · intro hsame
      have hpos : (0 : UInt32) < cp.bus.logEntries := by
        rw [UInt32.lt_iff_toNat_lt]
        exact Nat.pos_of_ne_zero fun hz => hlog (UInt32.toNat_inj.mp hz)
      exact (UInt32.add_left_inj _).mp (hsame 0 hpos)
    · rintro rfl i _
      rfl

def refusedCard : Coproc Rv32iState Unit :=
  rv32iCard.setBus { logRegionBus with ctlSize := openbusCoprocCtlSize, logOff := 0x40,
                                       logEntries := 4 }

theorem refused_pairs_same_offset :
    (∀ ctl, SameDecode (refusedCard.withCtl ctl).bus
      (mapPair rv32iOps emptyHost (refusedCard.withCtl ctl) .size32 0 0xffffffff).bus) ∧
    (∀ i < refusedCard.bus.logEntries,
      logSlot (logPair rv32iOps emptyHost refusedCard .size32 0x40 0xffffffff).bus i
        = logSlot refusedCard.bus i) :=
  ⟨((refused_pairs_iff rv32iOps emptyHost refusedCard .size32 0 0xffffffff).1
      ⟨rfl, rfl, by decide, by decide⟩ (by decide)).mpr rfl,
    ((refused_pairs_iff rv32iOps emptyHost refusedCard .size32 0x40 0xffffffff).2
      (by decide) (by decide)).mpr rfl⟩

/-- **The gap.**  The same count at another offset is refused, and the LOG page is gone from the map
all the same. -/
theorem refused_map_moves_table :
    ¬ ∀ (cp : Coproc Rv32iState Unit) (size : OpenbusSize) (offset count : UInt32),
      (cp.bus.mapCount ≠ 0 →
        (coproBusSetMap { cp.bus with mapOff := offset } offset count).1 = false →
        SameDecode cp.bus (mapPair rv32iOps emptyHost cp size offset count).bus) ∧
      (cp.bus.logEntries ≠ 0 →
        (coproBusSetLog { cp.bus with logOff := offset } offset count).1 = false →
        ∀ i < cp.bus.logEntries,
          logSlot (logPair rv32iOps emptyHost cp size offset count).bus i = logSlot cp.bus i) := by
  intro h
  have hsame := (h refusedCard .size32 0x100 0xffffffff).1 (by decide) (by decide) 0x210 false
  exact absurd hsame.2 (by decide)

end RpcEmu
