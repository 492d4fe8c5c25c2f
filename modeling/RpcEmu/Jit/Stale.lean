import RpcEmu.Jit.Blocks
import RpcEmu.Lib.Runs

/-!
# Blocks left behind by a clear

A store that takes the slow path calls `cacheclearpage` for its page, and after that no block of the
page may be found: its code is about to change.  The call does nothing when the page's presence flag
is clear, and the flag is the page number's low sixteen bits, so sixteen pages share each.

**What holds.**  `Filed`: every block is entered under the hash of its own PC, so the loop of
`cacheclearpage` looks in the right place.

**What may fail.**  `Marked`: every block's flag is set.  Clearing one page clears the flag of the
fifteen others; `Alone` says that none of them had a block, and `clears_iff_alone` that this is
exactly what a run needs for every clear to be complete.
-/

namespace RpcEmu.Jit

abbrev PageNumber := { a : UInt32 // a < 0x100000 }

inductive CacheOp
  | initcodeblock (l : UInt32) (word32 : Bool)
  | resetcodeblocks
  | cacheclearpage (a : PageNumber)

def CacheOp.apply (b : Blocks) : CacheOp → Blocks
  | .initcodeblock l word32 => Jit.initcodeblock b l word32
  | .resetcodeblocks => Jit.resetcodeblocks b
  | .cacheclearpage a => Jit.cacheclearpage b a

/-- The entry `h` holds a block whose PC lies in page `a`. -/
def HoldsPage (b : Blocks) (h a : UInt32) : Prop :=
  b.codeblockpc h ≠ noBlock ∧ b.codeblockpc h >>> 12 = a

instance (b : Blocks) (h a : UInt32) : Decidable (HoldsPage b h a) :=
  inferInstanceAs (Decidable (_ ∧ _))

/-- Clearing a page leaves no block of it. -/
def Clears (b : Blocks) : Prop := ∀ (a : PageNumber) (h : UInt32), ¬ HoldsPage (cacheclearpage b a) h a

/-- **The condition**: a page is cleared only while no other page that shares its presence flag has a
block. -/
def Alone (b : Blocks) : CacheOp → Prop
  | .cacheclearpage a =>
    ∀ h a' : UInt32, HoldsPage b h a' → a' &&& 0xffff = a.1 &&& 0xffff → a' = a.1
  | _ => True

/-- Each block is where its address hashes to. -/
def Filed (b : Blocks) : Prop := ∀ h, b.codeblockpc h ≠ noBlock → h = hash (b.codeblockpc h)

/-- The page of each block is marked. -/
def Marked (b : Blocks) : Prop :=
  ∀ h, b.codeblockpc h ≠ noBlock → b.codeblockpresent ((b.codeblockpc h >>> 12) &&& 0xffff) = true

section Stale

variable {b : Blocks}

/-! ## What a call does to an entry -/

/-- Blocks may have gone. -/
def Thins (b b' : Blocks) : Prop :=
  ∀ h, b'.codeblockpc h = noBlock ∨ b'.codeblockpc h = b.codeblockpc h

lemma Thins.refl (b : Blocks) : Thins b b := fun _ => Or.inr rfl

lemma Thins.update {b' : Blocks} (h : Thins b b') (i : UInt32) :
    Thins b { b' with codeblockpc := Function.update b'.codeblockpc i noBlock } := by
  intro j
  by_cases hj : j = i
  · left
    simp [hj]
  · simpa [hj] using h j

lemma Thins.eq {b' : Blocks} (h : Thins b b') {i : UInt32} (hi : b'.codeblockpc i ≠ noBlock) :
    b'.codeblockpc i = b.codeblockpc i := (h i).resolve_left hi

lemma Thins.dropEntry {b' : Blocks} (h : Thins b b') (slot : UInt32) :
    Thins b (dropEntry b' slot) := by
  unfold Jit.dropEntry
  split
  · exact h.update _
  · exact h

lemma thins_resetcodeblocks (b : Blocks) : Thins b (resetcodeblocks b) := by
  refine resetcodeblocks_inv (I := Thins b) (fun b' slot h => ?_) (Thins.refl b)
  exact h.dropEntry slot

lemma dropEntry_present (slot : UInt32) :
    (dropEntry b slot).codeblockpresent = b.codeblockpresent := by
  unfold dropEntry
  split <;> rfl

lemma resetcodeblocks_present (b : Blocks) :
    (resetcodeblocks b).codeblockpresent = b.codeblockpresent := by
  refine resetcodeblocks_inv (I := fun b' => b'.codeblockpresent = b.codeblockpresent)
    (fun b' slot h => ?_) rfl
  exact (dropEntry_present slot).trans h

lemma thins_cacheclearpage (b : Blocks) (a : UInt32) : Thins b (cacheclearpage b a) := by
  cases hp : b.codeblockpresent (a &&& 0xffff) with
  | false =>
    rw [cacheclearpage_absent hp]
    exact Thins.refl b
  | true =>
    refine cacheclearpage_inv (I := Thins b) hp (fun b' i h => ?_) (Thins.refl b)
    unfold clearSlot
    split
    · exact h.update i
    · exact h

lemma cacheclearpage_other {a h : UInt32} (hpage : b.codeblockpc h >>> 12 ≠ a) :
    (cacheclearpage b a).codeblockpc h = b.codeblockpc h := by
  cases hp : b.codeblockpresent (a &&& 0xffff) with
  | false => rw [cacheclearpage_absent hp]
  | true =>
    refine cacheclearpage_inv (I := fun b' => b'.codeblockpc h = b.codeblockpc h) hp
      (fun b' i hb => ?_) rfl
    unfold clearSlot
    split
    · rename_i hi
      have hne : h ≠ i := by
        rintro rfl
        exact hpage (hb ▸ hi)
      simpa [hne] using hb
    · exact hb

lemma cacheclearpage_page {l : UInt32} (h : b.codeblockpresent ((l >>> 12) &&& 0xffff) = true) :
    ¬ HoldsPage (cacheclearpage b (l >>> 12)) (hash l) (l >>> 12) := by
  obtain ⟨c, hc, hhash⟩ := hash_in_page l
  refine cacheclearpage_reaches (I := fun b' => ¬ HoldsPage b' (hash l) (l >>> 12)) hc h ?_ ?_
  · intro b' i hb
    unfold clearSlot
    split
    · intro hholds
      by_cases he : hash l = i
      · exact hholds.1 (by simp [he])
      · exact hb (by simpa [HoldsPage, he] using hholds)
    · exact hb
  · intro b' hholds
    rw [hhash] at hholds
    unfold clearSlot at hholds
    split at hholds
    · exact hholds.1 (by simp)
    · rename_i hpage
      exact hpage hholds.2

lemma cacheclearpage_present {a : UInt32} (h : b.codeblockpresent (a &&& 0xffff) = true) :
    (cacheclearpage b a).codeblockpresent =
      Function.update b.codeblockpresent (a &&& 0xffff) false := by
  refine cacheclearpage_inv (I := fun b' => b'.codeblockpresent =
    Function.update b.codeblockpresent (a &&& 0xffff) false) h (fun b' i hb => ?_) rfl
  unfold clearSlot
  split <;> exact hb

lemma initcodeblock_cases (l : UInt32) (word32 : Bool) {h : UInt32}
    (hb : (initcodeblock b l word32).codeblockpc h ≠ noBlock) :
    (h = hash l ∧ (initcodeblock b l word32).codeblockpc h = l) ∨
      (initcodeblock b l word32).codeblockpc h = b.codeblockpc h := by
  by_cases hh : h = hash l
  · exact Or.inl ⟨hh, by simp [initcodeblock, hh]⟩
  · refine Or.inr ?_
    have hpc : ∀ b' : Blocks, Function.update b'.codeblockpc (hash l) l h = b'.codeblockpc h :=
      fun b' => by simp [hh]
    simp only [initcodeblock, hpc] at hb ⊢
    exact ((Thins.refl _).dropEntry _).eq hb

lemma initcodeblock_present (l : UInt32) (word32 : Bool) :
    (initcodeblock b l word32).codeblockpresent =
      Function.update b.codeblockpresent ((l >>> 12) &&& 0xffff) true := by
  simp only [initcodeblock, dropEntry_present]

/-! ## Steps -/

lemma Filed.thins {b' : Blocks} (hb : Filed b) (ht : Thins b b') : Filed b' := by
  intro h hh
  have heq := ht.eq hh
  rw [heq]
  exact hb h (heq ▸ hh)

lemma Filed.apply (hb : Filed b) (op : CacheOp) : Filed (op.apply b) := by
  cases op with
  | initcodeblock l word32 =>
    intro h hh
    rcases initcodeblock_cases l word32 hh with ⟨rfl, hl⟩ | hold
    · exact congrArg hash hl.symm
    · change h = hash ((initcodeblock b l word32).codeblockpc h)
      rw [hold]
      exact hb h (hold ▸ hh)
  | resetcodeblocks => exact hb.thins (thins_resetcodeblocks b)
  | cacheclearpage a => exact hb.thins (thins_cacheclearpage b a)

lemma clears_iff_marked (hb : Filed b) : Clears b ↔ Marked b := by
  constructor
  · intro hc h hh
    by_contra habsent
    rw [Bool.not_eq_true] at habsent
    have hlt : b.codeblockpc h >>> 12 < 0x100000 := by
      rw [UInt32.lt_iff_toNat_lt, UInt32.toNat_shiftRight, show (12 : UInt32).toNat % 32 = 12 from rfl,
        Nat.shiftRight_eq_div_pow, show (0x100000 : UInt32).toNat = 0x100000 from rfl]
      have := (b.codeblockpc h).toNat_lt
      omega
    refine hc ⟨_, hlt⟩ h ?_
    change HoldsPage (cacheclearpage b (b.codeblockpc h >>> 12)) h _
    rw [cacheclearpage_absent habsent]
    exact ⟨hh, rfl⟩
  · rintro hm ⟨a, ha⟩ h hholds
    have heq := (thins_cacheclearpage b a).eq hholds.1
    have hne : b.codeblockpc h ≠ noBlock := heq ▸ hholds.1
    have hpage : b.codeblockpc h >>> 12 = a := heq ▸ hholds.2
    have hgone := cacheclearpage_page (hm h hne)
    rw [hpage, ← hb h hne] at hgone
    exact hgone hholds

lemma Marked.thins {b' : Blocks} (hb : Marked b) (ht : Thins b b')
    (hp : b'.codeblockpresent = b.codeblockpresent) : Marked b' := by
  intro h hh
  have heq := ht.eq hh
  rw [heq, hp]
  exact hb h (heq ▸ hh)

lemma Marked.initcodeblock (hb : Marked b) (l : UInt32) (word32 : Bool) :
    Marked (Jit.initcodeblock b l word32) := by
  intro h hh
  rw [initcodeblock_present]
  rcases initcodeblock_cases l word32 hh with ⟨-, hl⟩ | hold
  · rw [hl, Function.update_self]
  · rw [hold]
    by_cases hbyte : (b.codeblockpc h >>> 12) &&& (0xffff : UInt32) = (l >>> 12) &&& 0xffff
    · rw [hbyte, Function.update_self]
    · rw [Function.update_of_ne hbyte]
      exact hb h (hold ▸ hh)

lemma marked_cacheclearpage_iff (hf : Filed b) (hb : Marked b) (a : PageNumber) :
    Marked (cacheclearpage b a) ↔ Alone b (.cacheclearpage a) := by
  cases hp : b.codeblockpresent (a.1 &&& 0xffff) with
  | false =>
    rw [cacheclearpage_absent hp]
    refine ⟨fun _ h a' hholds hbyte => ?_, fun _ => hb⟩
    have hset := hb h hholds.1
    rw [hholds.2, hbyte, hp] at hset
    cases hset
  | true =>
    constructor
    · intro hm h a' hholds hbyte
      by_contra hne
      have hstays := cacheclearpage_other (b := b) (h := h) (a := a.1) (hholds.2 ▸ hne)
      have hset := hm h (hstays ▸ hholds.1)
      rw [hstays, hholds.2, hbyte, cacheclearpage_present hp, Function.update_self] at hset
      cases hset
    · intro halone h hh
      have heq := (thins_cacheclearpage b a).eq hh
      have hne : b.codeblockpc h ≠ noBlock := heq ▸ hh
      rw [heq, cacheclearpage_present hp]
      by_cases hbyte : (b.codeblockpc h >>> 12) &&& 0xffff = a.1 &&& (0xffff : UInt32)
      · have hpage := halone h _ ⟨hne, rfl⟩ hbyte
        exact absurd ⟨hh, heq ▸ hpage⟩ ((clears_iff_marked hf).mpr hb a h)
      · rw [Function.update_of_ne hbyte]
        exact hb h hne

/-- **One call.**  From a cache whose clears are complete, a call leaves such a cache exactly when it
meets the condition. -/
lemma clears_apply_iff (hf : Filed b) (hc : Clears b) (op : CacheOp) :
    Clears (op.apply b) ↔ Alone b op := by
  rw [clears_iff_marked (hf.apply op)]
  have hb := (clears_iff_marked hf).mp hc
  cases op with
  | initcodeblock l word32 => exact iff_of_true (hb.initcodeblock l word32) trivial
  | resetcodeblocks =>
    exact iff_of_true (hb.thins (thins_resetcodeblocks b) (resetcodeblocks_present b)) trivial
  | cacheclearpage a => exact marked_cacheclearpage_iff hf hb a

lemma clears_initcodeblocks : Filed initcodeblocks ∧ Clears initcodeblocks := by
  refine ⟨fun h hh => absurd rfl hh, fun a h hholds => ?_⟩
  rw [cacheclearpage_absent rfl] at hholds
  exact hholds.1 rfl

lemma stays_behind {h : UInt32} {a a' : PageNumber} (hb : HoldsPage b h a) (hne : a.1 ≠ a'.1)
    (hbyte : a.1 &&& 0xffff = a'.1 &&& 0xffff) (hp : b.codeblockpresent (a'.1 &&& 0xffff) = true) :
    HoldsPage (CacheOp.apply (CacheOp.apply b (.cacheclearpage a')) (.cacheclearpage a)) h a := by
  change HoldsPage (cacheclearpage (cacheclearpage b a') a) h a
  rw [cacheclearpage_absent (b := cacheclearpage b a')]
  · have hstays := cacheclearpage_other (b := b) (h := h) (a := a'.1) (hb.2.symm ▸ hne)
    exact ⟨hstays ▸ hb.1, hstays ▸ hb.2⟩
  · rw [hbyte, cacheclearpage_present hp, Function.update_self]

end Stale

/-- **Clears are complete exactly in the runs that never clear a shared flag.**  Over every sequence
of calls, a clear of whatever page, made after any of them, leaves no block of that page if and only
if no clear of the sequence finds a block of another page on the same presence flag. -/
theorem clears_iff_alone (ops : List CacheOp) :
    Runs.Along CacheOp.apply (fun b op => Clears (op.apply b)) initcodeblocks ops ↔
      Runs.Along CacheOp.apply Alone initcodeblocks ops :=
  (Runs.along_iff_of_inv (I := fun b => Filed b ∧ Clears b) (C := Alone)
    (P := fun b op => Clears (op.apply b))
    (fun _ op hb halone => ⟨hb.1.apply op, (clears_apply_iff hb.1 hb.2 op).mpr halone⟩)
    (fun _ op hb => (clears_apply_iff hb.1 hb.2 op).symm) ops _ clears_initcodeblocks).symm

/-- **A block outlives its page.**  Blocks at `0x8000` and `0x10008004` share a presence flag; once
the second page is cleared, a clear of the first finds the flag clear and leaves its block. -/
theorem shared_flag_keeps_block :
    ¬ ∀ (ops : List CacheOp) (a : PageNumber) (h : UInt32),
      ¬ HoldsPage (Runs.exec CacheOp.apply initcodeblocks (ops ++ [.cacheclearpage a])) h a := by
  intro hall
  refine hall [.initcodeblock 0x8000 true, .initcodeblock 0x10008004 true,
    .cacheclearpage ⟨0x10008, by decide⟩] ⟨8, by decide⟩ (hash 0x8000) ?_
  rw [Runs.exec_append, Runs.exec_cons, Runs.exec_cons, Runs.exec_cons, Runs.exec_nil,
    Runs.exec_cons, Runs.exec_nil]
  exact stays_behind (by decide +kernel) (by decide) (by decide) (by decide +kernel)

end RpcEmu.Jit
