import RpcEmu.Iomd.Interrupts

/-!
# When the timers are looked at

`updatetimers` takes what has gone by since it was last called off both counters.  `tick_eq` says in one step what its
loop does.
-/

namespace RpcEmu.Iomd

open Pages

/-! ## Interrupts in any order -/

def putBit (b : Bool) (m x : UInt32) : UInt32 := if b then x ||| m else x &&& ~~~m

lemma bit_putBit (b : Bool) (m x : UInt32) {i : Nat} (hi : i < 32) :
    bit (putBit b m x) i = bif bit m i then b else bit x i := by
  unfold putBit
  cases b <;> cases hm : bit m i <;> simp [Masks.bit_not m hi, hm]

lemma putBit_twice (b b' c c' : Bool) (x : UInt32) :
    putBit c 2 (putBit b 1 (putBit c' 2 (putBit b' 1 x))) = putBit c 2 (putBit b 1 x) := by
  apply ext_bit
  intro i hi
  simp only [bit_putBit _ _ _ hi]
  cases bit 2 i <;> cases bit 1 i <;> rfl

lemma updateirqs_eq (s : IomdState) :
    updateirqs s = { s with event := putBit (fiqPending s) 2 (putBit (irqPending s) 1 s.event) } := rfl

section Lines

variable (s : IomdState) (l l' : Line) (i j : TimerId) (c d : Int32)

lemma raise_updateirqs : raise (updateirqs s) l = raise s l := by
  cases l <;>
  · simp only [raise, updateirqs_eq]
    congr 1
    exact putBit_twice _ _ _ _ _

lemma set_set : set (set s l) l = set s l := by cases l <;> simp [set, UInt8.or_assoc]

lemma set_comm : set (set s l) l' = set (set s l') l := by
  cases l <;> cases l' <;> simp only [set, UInt8.or_comm] <;> ac_rfl

lemma raise_raise : raise (raise s l) l = raise s l :=
  calc raise (raise s l) l = raise (set s l) l := raise_updateirqs _ _
    _ = raise s l := congrArg updateirqs (set_set s l)

lemma raise_comm : raise (raise s l) l' = raise (raise s l') l :=
  calc raise (raise s l) l' = raise (set s l) l' := raise_updateirqs _ _
    _ = raise (set s l') l := congrArg updateirqs (set_comm s l l')
    _ = raise (raise s l') l := (raise_updateirqs _ _).symm

@[simp] lemma timer_raise : (raise s l).timer = s.timer := by cases l <;> rfl

/-! ## What the loop comes to -/

def counted : IomdState := s.setTimer i { s.timer i with counter := c }

@[simp] lemma timer_counted : (counted s i c).timer i = { s.timer i with counter := c } := Function.update_self _ _ _

lemma timer_counted_of_ne {i j : TimerId} (h : j ≠ i) : (counted s i c).timer j = s.timer j :=
  Function.update_of_ne h _ _

@[simp] lemma counted_counted : counted (counted s i c) i d = counted s i d := by
  simp [counted, IomdState.setTimer]

@[simp] lemma counted_self : counted s i (s.timer i).counter = s := by
  simp [counted, IomdState.setTimer]

lemma counted_comm {i j : TimerId} (h : i ≠ j) : counted (counted s i c) j d = counted (counted s j d) i c := by
  have htimers := Function.update_comm h { s.timer i with counter := c } { s.timer j with counter := d } s.timer
  unfold counted IomdState.setTimer
  simp only [Function.update_of_ne h, Function.update_of_ne h.symm, htimers]

lemma counted_raise : counted (raise s l) i c = raise (counted s i c) l := by cases l <;> rfl

/-- What the latch leaves of a count below zero. -/
def IomdTimer.reloaded (t : IomdTimer) (c : Int32) : Int32 := .ofInt (c.toInt % t.latch.toInt)

lemma toInt_reloaded {t : IomdTimer} (h : t.inLatch ≠ 0) (c : Int32) :
    (t.reloaded c).toInt = c.toInt % t.latch.toInt := by
  have hpos := latch_pos h
  have hmod := Int.emod_nonneg c.toInt hpos.ne'
  have hmodlt := Int.emod_lt_of_pos c.toInt hpos
  have hlt := t.latch.toInt_lt
  exact Int32.toInt_ofInt_of_le (by omega) (by omega)

lemma toInt_sub_of_room {a b : Int32} (hb : 0 ≤ b.toInt) (hroom : -2 ^ 31 ≤ a.toInt - b.toInt) :
    (a - b).toInt = a.toInt - b.toInt := by
  have hlt := a.toInt_lt
  rw [Int32.toInt_sub, Int.bmod_eq_of_le (by omega) (by omega)]

def settle : IomdState :=
  if c < 0 ∧ (s.timer i).inLatch ≠ 0 then raise (counted s i ((s.timer i).reloaded c)) (.irqa i.bit)
  else counted s i c

variable {s i c} in
lemma settle_of_out (h : c < 0 ∧ (s.timer i).inLatch ≠ 0) :
    settle s i c = raise (counted s i ((s.timer i).reloaded c)) (.irqa i.bit) := if_pos h

variable {s i c} in
lemma settle_of_in (h : ¬(c < 0 ∧ (s.timer i).inLatch ≠ 0)) : settle s i c = counted s i c := if_neg h

@[simp] lemma settle_counted : settle (counted s i d) i c = settle s i c := by
  simp [settle, IomdTimer.reloaded, IomdTimer.latch]

@[simp] lemma settle_raise : settle (raise s l) i c = raise (settle s i c) l := by
  unfold settle
  rw [timer_raise, counted_raise, counted_raise]
  split
  · exact raise_comm _ _ _
  · rfl

lemma timer_settle_of_ne {i j : TimerId} (h : j ≠ i) : (settle s i c).timer j = s.timer j := by
  unfold settle
  split
  · rw [timer_raise, timer_counted_of_ne _ _ h]
  · exact timer_counted_of_ne _ _ h

lemma settle_counted_of_ne {i j : TimerId} (h : i ≠ j) : settle (counted s j d) i c = counted (settle s i c) j d := by
  unfold settle
  rw [timer_counted_of_ne _ _ h]
  split
  · rw [counted_raise, counted_comm _ _ _ h]
  · exact counted_comm _ _ _ h.symm

/-- **The loop of `updatetimers`.** -/
lemma expire_eq : expire s i = settle s i (s.timer i).counter := by
  induction s using expire.induct i with
  | case1 s hout ih =>
    have hnext : raise (s.setTimer i { s.timer i with counter := (s.timer i).counter + (s.timer i).latch })
        (.irqa i.bit) = raise (counted s i ((s.timer i).counter + (s.timer i).latch)) (.irqa i.bit) := rfl
    have hsum := toInt_add_latch hout.1
    rw [expire, if_pos hout, ih, hnext, timer_raise, timer_counted, settle_raise, settle_counted]
    dsimp only
    unfold settle
    rw [if_pos hout]
    split
    case isTrue =>
      have hsame : (s.timer i).reloaded ((s.timer i).counter + (s.timer i).latch) =
          (s.timer i).reloaded (s.timer i).counter := by
        rw [IomdTimer.reloaded, IomdTimer.reloaded, hsum, Int.add_emod_right]
      rw [raise_raise, hsame]
    case isFalse hin =>
      have hcounter : 0 ≤ (s.timer i).counter + (s.timer i).latch := Int32.not_lt.mp fun h => hin ⟨h, hout.2⟩
      have hnonneg := Int32.le_iff_toInt_le.mp hcounter
      have hneg := Int32.lt_iff_toInt_lt.mp hout.1
      rw [Int32.toInt_zero] at hnonneg hneg
      have hsame : (s.timer i).counter + (s.timer i).latch = (s.timer i).reloaded (s.timer i).counter := by
        rw [← Int32.toInt_inj, toInt_reloaded hout.2, hsum, ← Int.add_emod_right,
          Int.emod_eq_of_lt (by omega) (by omega)]
      rw [hsame]
  | case2 s hout =>
    rw [expire, if_neg hout, settle, if_neg hout, counted_self]

lemma tick_eq : tick s i c = settle s i ((s.timer i).counter - c) := by
  have hstart : tick s i c = expire (counted s i ((s.timer i).counter - c)) i := rfl
  rw [hstart, expire_eq, timer_counted, settle_counted]

/-- **Two stretches of time are one**, where the counter does not overflow. -/
lemma tick_tick (hc : 0 ≤ c.toInt) (hd : 0 ≤ d.toInt) (hsum : (c + d).toInt = c.toInt + d.toInt)
    (hroom : -2 ^ 31 ≤ (s.timer i).counter.toInt - (c.toInt + d.toInt)) :
    tick (tick s i c) i d = tick s i (c + d) := by
  have hfirst := toInt_sub_of_room (a := (s.timer i).counter) hc (by omega)
  have hall : (s.timer i).counter - (c + d) = (s.timer i).counter - c - d := by grind
  rw [tick_eq, tick_eq s, tick_eq, hall]
  generalize (s.timer i).counter - c = n at hfirst ⊢
  have hsecond := toInt_sub_of_room (a := n) hd (by omega)
  by_cases hout : n < 0 ∧ (s.timer i).inLatch ≠ 0
  · have hlatch := latch_pos hout.2
    have hn := Int32.lt_iff_toInt_lt.mp hout.1
    rw [Int32.toInt_zero] at hn
    have hboth : n - d < 0 ∧ (s.timer i).inLatch ≠ 0 := by
      refine ⟨Int32.lt_iff_toInt_lt.mpr ?_, hout.2⟩
      rw [hsecond, Int32.toInt_zero]
      omega
    have hmod := Int.emod_nonneg n.toInt hlatch.ne'
    have hmodlt := Int.emod_lt_of_pos n.toInt hlatch
    have hreloaded := toInt_reloaded hout.2 n
    have hrest := toInt_sub_of_room (a := (s.timer i).reloaded n) hd (by have := d.toInt_lt; omega)
    rw [settle_of_out hout, settle_of_out hboth, timer_raise, timer_counted, settle_raise, settle_counted]
    dsimp only
    -- The counter left by the first stretch may run out again in the second.
    by_cases hagain : (s.timer i).reloaded n - d < 0 ∧ (s.timer i).inLatch ≠ 0
    · have hsame : (s.timer i).reloaded ((s.timer i).reloaded n - d) = (s.timer i).reloaded (n - d) := by
        rw [← Int32.toInt_inj, toInt_reloaded hout.2, toInt_reloaded hout.2, hrest, hreloaded, hsecond,
          Int.emod_sub_emod]
      rw [settle_of_out hagain, raise_raise, hsame]
    · have hcounter := Int32.le_iff_toInt_le.mp (Int32.not_lt.mp fun h => hagain ⟨h, hout.2⟩)
      rw [Int32.toInt_zero] at hcounter
      have hsame : (s.timer i).reloaded n - d = (s.timer i).reloaded (n - d) := by
        rw [← Int32.toInt_inj, toInt_reloaded hout.2, hsecond, ← Int.emod_sub_emod, ← hreloaded, ← hrest,
          Int.emod_eq_of_lt hcounter (by omega)]
      rw [settle_of_in hagain, hsame]
  · rw [settle_of_in hout, timer_counted, settle_counted]

variable {i j} in
lemma settle_comm (h : i ≠ j) : settle (settle s j d) i c = settle (settle s i c) j d := by
  have hj := timer_settle_of_ne s c h.symm
  by_cases hout : d < 0 ∧ (s.timer j).inLatch ≠ 0
  · have hother : d < 0 ∧ ((settle s i c).timer j).inLatch ≠ 0 := by rwa [hj]
    rw [settle_of_out hout, settle_raise, settle_counted_of_ne _ _ _ h, settle_of_out hother, hj]
  · have hother : ¬(d < 0 ∧ ((settle s i c).timer j).inLatch ≠ 0) := by rwa [hj]
    rw [settle_of_in hout, settle_counted_of_ne _ _ _ h, settle_of_in hother]

variable {i j} in
lemma tick_comm (h : i ≠ j) : tick (tick s j d) i c = tick (tick s i c) j d := by
  rw [tick_eq, tick_eq s, tick_eq, tick_eq s, timer_settle_of_ne _ _ h, timer_settle_of_ne _ _ h.symm,
    settle_comm _ _ _ h]

lemma settle_oldTimerTicks (n : UInt32) :
    settle { s with oldTimerTicks := n } i c = { settle s i c with oldTimerTicks := n } := by
  unfold settle
  split <;> rfl

lemma tick_oldTimerTicks (n : UInt32) :
    tick { s with oldTimerTicks := n } i c = { tick s i c with oldTimerTicks := n } := by
  rw [tick_eq, tick_eq, settle_oldTimerTicks]

end Lines

def elapse (s : IomdState) (ticks : Int32) : IomdState := tick (tick s .t0 ticks) .t1 ticks

/-- Neither counter overflows when `ticks` are taken off it. -/
def HasRoom (s : IomdState) (ticks : Int) : Prop := ∀ i, -2 ^ 31 ≤ (s.timer i).counter.toInt - ticks

lemma timer_tick_of_ne (s : IomdState) {i j : TimerId} (c : Int32) (h : j ≠ i) : (tick s i c).timer j = s.timer j := by
  rw [tick_eq]
  exact timer_settle_of_ne _ _ h

/-- Two stretches of time are one, for the counters and the interrupts alike, where neither counter overflows. -/
lemma elapse_add {s : IomdState} {c d : Int32} (hc : 0 ≤ c.toInt) (hd : 0 ≤ d.toInt)
    (hsum : (c + d).toInt = c.toInt + d.toInt) (hroom : HasRoom s (c.toInt + d.toInt)) :
    elapse (elapse s c) d = elapse s (c + d) := by
  have hother : (tick s .t0 (c + d)).timer .t1 = s.timer .t1 := timer_tick_of_ne _ _ (by decide)
  unfold elapse
  rw [tick_comm _ _ _ (by decide : TimerId.t0 ≠ .t1), tick_tick _ _ _ _ hc hd hsum (hroom .t0),
    tick_tick _ _ _ _ hc hd hsum (by rw [hother]; exact hroom .t1)]

lemma le_counter_settle (s : IomdState) (i : TimerId) (c : Int32) :
    c.toInt ≤ ((settle s i c).timer i).counter.toInt := by
  by_cases hout : c < 0 ∧ (s.timer i).inLatch ≠ 0
  · have hneg := Int32.lt_iff_toInt_lt.mp hout.1
    rw [Int32.toInt_zero] at hneg
    rw [settle_of_out hout, timer_raise, timer_counted]
    dsimp only
    rw [toInt_reloaded hout.2]
    exact hneg.le.trans (Int.emod_nonneg _ (latch_pos hout.2).ne')
  · rw [settle_of_in hout, timer_counted]

lemma timer_elapse (s : IomdState) (c : Int32) (i : TimerId) :
    ((elapse s c).timer i) = (settle s i ((s.timer i).counter - c)).timer i := by
  unfold elapse
  cases i with
  | t0 => rw [timer_tick_of_ne _ _ (by decide), tick_eq]
  | t1 =>
    have hother : (tick s .t0 c).timer .t1 = s.timer .t1 := timer_tick_of_ne _ _ (by decide)
    rw [tick_eq, hother, tick_eq, settle_comm _ _ _ (by decide : TimerId.t1 ≠ .t0), timer_settle_of_ne _ _ (by decide)]

lemma hasRoom_elapse {s : IomdState} {c : Int32} {d : Int} (hc : 0 ≤ c.toInt) (hd : 0 ≤ d)
    (hroom : HasRoom s (c.toInt + d)) : HasRoom (elapse s c) d := by
  intro i
  have hdeep := hroom i
  have hsub := toInt_sub_of_room (a := (s.timer i).counter) hc (by omega)
  have hle := le_counter_settle s i ((s.timer i).counter - c)
  rw [timer_elapse]
  omega

lemma elapse_oldTimerTicks (s : IomdState) (c : Int32) (n : UInt32) :
    elapse { s with oldTimerTicks := n } c = { elapse s c with oldTimerTicks := n } := by
  unfold elapse
  rw [tick_oldTimerTicks s .t0 c n, tick_oldTimerTicks (tick s .t0 c) .t1 c n]

/-! ## Ticks of the host's clock -/

def ticksAt (nsecTimer : UInt64) : Nat := nsecTimer.toNat / 500

lemma toUInt32_ticks (t : UInt64) : ((t / 500).toUInt32).toNat = ticksAt t % 2 ^ 32 := by
  rw [UInt64.toNat_toUInt32, UInt64.toNat_div]
  rfl

/-- The difference that `updatetimers` takes. -/
def gone (t₀ t : UInt64) : Int32 := ((t / 500).toUInt32 - (t₀ / 500).toUInt32).toInt32

/-- **The 32-bit difference is what has gone by**, below 2^31 ticks. -/
lemma toInt_gone {t₀ t : UInt64} (hle : ticksAt t₀ ≤ ticksAt t) (hlt : ticksAt t < ticksAt t₀ + 2 ^ 31) :
    (gone t₀ t).toInt = ticksAt t - ticksAt t₀ := by
  have hnew := toUInt32_ticks t
  have hold := toUInt32_ticks t₀
  unfold gone
  generalize (t / 500).toUInt32 = new at hnew ⊢
  generalize (t₀ / 500).toUInt32 = old at hold ⊢
  have hint : (new - old).toInt32.toInt = ((new - old).toNat : Int).bmod (2 ^ 32) := by
    rw [← Int32.toInt_toBitVec, UInt32.toBitVec_toInt32, BitVec.toInt_eq_toNat_bmod]
    rfl
  rw [hint, UInt32.toNat_sub, hnew, hold, Int.bmod_def]
  omega

lemma gone_add (t₀ t₁ t : UInt64) : gone t₀ t₁ + gone t₁ t = gone t₀ t := by
  simp only [gone, UInt32.toInt32_sub]
  grind

lemma toUInt32_congr {t t' : UInt64} (h : ticksAt t = ticksAt t') : (t / 500).toUInt32 = (t' / 500).toUInt32 := by
  rw [← UInt32.toNat_inj, toUInt32_ticks, toUInt32_ticks, h]

/-- Below 2^31 ticks of half a microsecond the 32-bit difference is what has gone by. -/
lemma updatetimers_eq {s : IomdState} {t₀ t : UInt64} (hold : s.oldTimerTicks = (t₀ / 500).toUInt32)
    (hle : t₀ ≤ t) (hlt : ticksAt t < ticksAt t₀ + 2 ^ 31) :
    updatetimers s t = if ticksAt t = ticksAt t₀ then s
      else { elapse s (gone t₀ t) with oldTimerTicks := (t / 500).toUInt32 } := by
  have hticks : ticksAt t₀ ≤ ticksAt t := Nat.div_le_div_right hle
  have hint := toInt_gone hticks hlt
  have hdiff : ((t / 500).toUInt32 - (t₀ / 500).toUInt32).toInt32 = gone t₀ t := rfl
  unfold updatetimers
  rw [hold]
  dsimp only
  simp only [hdiff, Int32.le_iff_toInt_le, hint, Int32.toInt_zero]
  split_ifs
  · rfl
  · omega
  · omega
  · exact elapse_oldTimerTicks _ _ _

/-- **When it was looked at in between does not matter.** -/
lemma updatetimers_updatetimers {s : IomdState} {t₀ t₁ t : UInt64} (hold : s.oldTimerTicks = (t₀ / 500).toUInt32)
    (hle₁ : t₀ ≤ t₁) (hle : t₁ ≤ t) (hlt : ticksAt t < ticksAt t₀ + 2 ^ 31)
    (hroom : HasRoom s (ticksAt t - ticksAt t₀)) :
    updatetimers (updatetimers s t₁) t = updatetimers s t ∧
      (updatetimers s t₁).oldTimerTicks = (t₁ / 500).toUInt32 ∧
        HasRoom (updatetimers s t₁) (ticksAt t - ticksAt t₁) := by
  have hticks₁ : ticksAt t₀ ≤ ticksAt t₁ := Nat.div_le_div_right hle₁
  have hticks : ticksAt t₁ ≤ ticksAt t := Nat.div_le_div_right hle
  have hfirst := updatetimers_eq hold hle₁ (by omega)
  have hall := updatetimers_eq hold (UInt64.le_trans hle₁ hle) hlt
  have hgone₁ := toInt_gone hticks₁ (by omega)
  have hgone := toInt_gone hticks (by omega)
  have hboth := toInt_gone (le_trans hticks₁ hticks) hlt
  have hstretch : (gone t₀ t₁).toInt + (gone t₁ t).toInt = ticksAt t - ticksAt t₀ := by omega
  have hsum : (gone t₀ t₁ + gone t₁ t).toInt = (gone t₀ t₁).toInt + (gone t₁ t).toInt := by
    rw [gone_add, hstretch, hboth]
  by_cases hnone : ticksAt t₁ = ticksAt t₀
  · rw [hfirst, if_pos hnone, hnone]
    exact ⟨rfl, hold.trans (toUInt32_congr hnone.symm), hroom⟩
  · rw [if_neg hnone] at hfirst
    have hold₁ : (updatetimers s t₁).oldTimerTicks = (t₁ / 500).toUInt32 := congrArg IomdState.oldTimerTicks hfirst
    refine ⟨?_, hold₁, ?_⟩
    · have hlast := updatetimers_eq hold₁ hle (by omega)
      rw [hlast, hall, if_neg (by omega : ticksAt t ≠ ticksAt t₀)]
      split
      case isTrue hrest =>
        have hsame : gone t₀ t₁ = gone t₀ t := by unfold gone; rw [toUInt32_congr hrest]
        rw [hfirst, hsame, toUInt32_congr hrest]
      case isFalse =>
        rw [hfirst, elapse_oldTimerTicks,
          elapse_add (by omega) (by omega) hsum (by rwa [hstretch]), gone_add]
    · have hafter := hasRoom_elapse (s := s) (c := gone t₀ t₁) (d := ticksAt t - ticksAt t₁) (by omega) (by omega)
        (by rwa [hgone₁, add_comm, sub_add_sub_cancel])
      rw [hfirst]
      exact hafter

lemma foldl_updatetimers (ts : List UInt64) {s : IomdState} {t₀ t : UInt64}
    (hold : s.oldTimerTicks = (t₀ / 500).toUInt32) (hts : (t₀ :: (ts ++ [t])).Pairwise (· ≤ ·))
    (hlt : ticksAt t < ticksAt t₀ + 2 ^ 31) (hroom : HasRoom s (ticksAt t - ticksAt t₀)) :
    (ts ++ [t]).foldl updatetimers s = updatetimers s t := by
  induction ts generalizing s t₀ with
  | nil => rfl
  | cons t₁ ts ih =>
    rw [List.cons_append, List.pairwise_cons] at hts
    have hle₁ := hts.1 t₁ List.mem_cons_self
    have hle : t₁ ≤ t := (List.pairwise_cons.mp hts.2).1 t (by simp)
    have hticks₁ : ticksAt t₀ ≤ ticksAt t₁ := Nat.div_le_div_right hle₁
    obtain ⟨hsplit, hold₁, hroom₁⟩ := updatetimers_updatetimers hold hle₁ hle hlt hroom
    rw [List.cons_append, List.foldl_cons, ih hold₁ hts.2 (by omega) hroom₁, hsplit]

/-! ## The counters -/

/-- From 0 to the latch less one. -/
def InRange (t : IomdTimer) : Prop := 0 ≤ t.counter.toInt ∧ t.counter.toInt < t.inLatch.toNat

lemma inRange_settle_iff {s : IomdState} {i : TimerId} {c : Int32} (hlatch : (s.timer i).inLatch ≠ 0) :
    InRange ((settle s i c).timer i) ↔ c.toInt < (s.timer i).inLatch.toNat := by
  have hpos := latch_pos hlatch
  have hnat := (s.timer i).toInt_latch
  by_cases hout : c < 0 ∧ (s.timer i).inLatch ≠ 0
  · have hneg := Int32.lt_iff_toInt_lt.mp hout.1
    have hmod := Int.emod_nonneg c.toInt hpos.ne'
    have hmodlt := Int.emod_lt_of_pos c.toInt hpos
    rw [Int32.toInt_zero] at hneg
    rw [settle_of_out hout, timer_raise, timer_counted, InRange]
    dsimp only
    rw [toInt_reloaded hlatch]
    exact iff_of_true ⟨hmod, hmodlt.trans_eq hnat⟩ (by omega)
  · have hcounter := Int32.le_iff_toInt_le.mp (Int32.not_lt.mp fun h => hout ⟨h, hlatch⟩)
    rw [Int32.toInt_zero] at hcounter
    rw [settle_of_in hout, timer_counted]
    exact and_iff_right hcounter

lemma inRange_updatetimers_iff {s : IomdState} {t₀ t : UInt64} {i : TimerId}
    (hold : s.oldTimerTicks = (t₀ / 500).toUInt32) (hle : t₀ ≤ t) (hlt : ticksAt t < ticksAt t₀ + 2 ^ 31)
    (hroom : HasRoom s (ticksAt t - ticksAt t₀)) (hlatch : (s.timer i).inLatch ≠ 0) :
    InRange ((updatetimers s t).timer i) ↔
      (s.timer i).counter.toInt - (ticksAt t - ticksAt t₀) < (s.timer i).inLatch.toNat ∧
        (ticksAt t = ticksAt t₀ → 0 ≤ (s.timer i).counter.toInt) := by
  have hticks : ticksAt t₀ ≤ ticksAt t := Nat.div_le_div_right hle
  have hgone := toInt_gone hticks hlt
  rw [updatetimers_eq hold hle hlt]
  split
  case isTrue hnone =>
    rw [hnone, sub_self, sub_zero, InRange]
    tauto
  case isFalse hsome =>
    have hsub := toInt_sub_of_room (a := (s.timer i).counter) (b := gone t₀ t) (by omega) (hgone ▸ hroom i)
    rw [show ∀ n, ({ elapse s (gone t₀ t) with oldTimerTicks := n } : IomdState).timer i =
      (elapse s (gone t₀ t)).timer i from fun _ => rfl, timer_elapse, inRange_settle_iff hlatch, hsub, hgone]
    exact (and_iff_left fun h => absurd h hsome).symm

/-- **The timers do not depend on when they are looked at.**  At any times that do not go back, are within 2^31 ticks of
the last call before and leave each counter in its 32 bits, many calls come to the same as the last alone, interrupts
included, and a counter with a latch ends below it if it began so. -/
theorem timers_steady (s : IomdState) (t₀ : UInt64) (ts : List UInt64) (t : UInt64)
    (hold : s.oldTimerTicks = (t₀ / 500).toUInt32) (hts : (t₀ :: (ts ++ [t])).Pairwise (· ≤ ·))
    (hlt : ticksAt t < ticksAt t₀ + 2 ^ 31) (hroom : HasRoom s (ticksAt t - ticksAt t₀)) :
    (ts ++ [t]).foldl updatetimers s = updatetimers s t ∧
      ∀ i, (s.timer i).inLatch ≠ 0 →
        (InRange ((updatetimers s t).timer i) ↔
          (s.timer i).counter.toInt - (ticksAt t - ticksAt t₀) < (s.timer i).inLatch.toNat ∧
            (ticksAt t = ticksAt t₀ → 0 ≤ (s.timer i).counter.toInt)) := by
  have hle : t₀ ≤ t := (List.pairwise_cons.mp hts).1 t (by simp)
  exact ⟨foldl_updatetimers ts hold hts hlt hroom, fun _ hlatch => inRange_updatetimers_iff hold hle hlt hroom hlatch⟩

theorem timers_steady_minute :
    [20000000000, 60000000000].foldl updatetimers (iomdReset unset .iomd) =
        updatetimers (iomdReset unset .iomd) 60000000000 ∧
      InRange ((updatetimers (iomdReset unset .iomd) 60000000000).timer .t0) := by
  have hsteady :=
    timers_steady (iomdReset unset .iomd) 0 [20000000000] 60000000000 (by decide) (by decide) (by decide)
      fun _ => by simp only [iomdReset]; decide
  exact ⟨hsteady.1, (hsteady.2 .t0 (by decide)).mpr (by decide)⟩

/-- A timer that counts from `counter`, its latch being that. -/
def counting (counter : Int32) (inLatch : UInt16) : IomdState := { unset with timer := fun _ => ⟨inLatch, counter, 0⟩ }

/-- **After twenty minutes** a timer that has not been looked at stands still, and one looked at after ten does not;
and a counter is above its latch when that has just been lowered. -/
theorem not_timers_steady :
    (¬∀ (s : IomdState) (t₀ : UInt64) (ts : List UInt64) (t : UInt64), s.oldTimerTicks = (t₀ / 500).toUInt32 →
        (t₀ :: (ts ++ [t])).Pairwise (· ≤ ·) →
          ((ts ++ [t]).foldl updatetimers s).timer .t0 = (updatetimers s t).timer .t0) ∧
      ¬∀ (s : IomdState) (t₀ : UInt64) (ts : List UInt64) (t : UInt64) (i : TimerId),
        s.oldTimerTicks = (t₀ / 500).toUInt32 → (t₀ :: (ts ++ [t])).Pairwise (· ≤ ·) → (s.timer i).inLatch ≠ 0 →
          InRange (((ts ++ [t]).foldl updatetimers s).timer i) := by
  have hstart : ∀ counter inLatch, (counting counter inLatch).oldTimerTicks = ((0 : UInt64) / 500).toUInt32 :=
    fun _ _ => rfl
  have hdeep : ∀ counter inLatch n, -2 ^ 31 ≤ Int32.toInt counter - n → HasRoom (counting counter inLatch) n :=
    fun _ _ _ h _ => h
  constructor
  · intro h
    have hlast := h (counting 0xffff 0xffff) 0 [600000000000] 1200000000000 (by decide) (by decide)
    -- The first ten minutes are taken off, and the next ten too.
    have hten : ∀ i, InRange ((updatetimers (counting 0xffff 0xffff) 600000000000).timer i) := by
      intro i
      refine (inRange_updatetimers_iff (hstart _ _) (by decide) (by decide) (hdeep _ _ _ (by decide)) ?_).mpr ?_
      all_goals cases i <;> decide
    have hlatch : ((updatetimers (counting 0xffff 0xffff) 600000000000).timer .t0).inLatch ≠ 0 := by
      intro hzero
      have hpos := (hten .t0).1.trans_lt (hten .t0).2
      rw [hzero] at hpos
      exact absurd hpos (by decide)
    have hold : (updatetimers (counting 0xffff 0xffff) 600000000000).oldTimerTicks =
        (600000000000 / 500 : UInt64).toUInt32 :=
      congrArg IomdState.oldTimerTicks (updatetimers_eq (hstart _ _) (by decide) (by decide))
    have htwenty := (inRange_updatetimers_iff (t := 1200000000000) hold (by decide) (by decide)
      (fun i => le_trans (by decide) (Int.sub_le_sub_right (hten i).1 _)) hlatch).mpr
      ⟨lt_of_le_of_lt (Int.sub_le_self _ (by decide)) (hten .t0).2, fun _ => (hten .t0).1⟩
    -- All twenty at once are not.
    have hnone : updatetimers (counting 0xffff 0xffff) 1200000000000 = counting 0xffff 0xffff := by
      unfold updatetimers
      exact if_pos (by decide)
    rw [hnone] at hlast
    rw [List.singleton_append, List.foldl_cons, List.foldl_cons, List.foldl_nil] at hlast
    rw [hlast] at htwenty
    exact absurd htwenty.2 (by decide)
  · intro h
    have hone : InRange ((updatetimers (counting 0xfff 16) 500).timer .t0) :=
      h (counting 0xfff 16) 0 [] 500 .t0 rfl (by decide) (by decide)
    have hrange := (inRange_updatetimers_iff (t := 500) (hstart _ _) (by decide) (by decide)
      (hdeep _ _ _ (by decide)) (by decide)).mp hone
    exact absurd hrange.1 (by decide)

end RpcEmu.Iomd
