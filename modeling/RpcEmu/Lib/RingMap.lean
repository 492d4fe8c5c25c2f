import Mathlib.Data.Fin.Basic
import Mathlib.Logic.Function.Basic
import Mathlib.Data.Fintype.Basic
import Mathlib.Algebra.Ring.Nat

/-!
# A table filled through a ring of slots

A cache that never searches: a large table of entries, and beside it a small ring that records which
keys have one.  A new entry takes the next slot of the ring and evicts whatever key the slot held;
emptying the cache visits the slots, not the table.

* That only works if every entry is recorded in some slot, so the structure carries it (`named`).
* **What an operation can do to an entry**: nothing, remove it, or be the `install` that put it there
  (`install_entry`, `entry_of_drop`).
-/

/-- A table of `ν` by `κ` whose keys are recorded in a ring of `n` slots, each with a tag. -/
structure RingMap (n : Nat) (κ ν τ : Type) where
  entry : κ → Option ν
  slot : Fin n → Option (κ × τ)
  pos : Fin n
  named : ∀ k v, entry k = some v → ∃ c t, slot c = some (k, t)

namespace RingMap

variable {n : Nat} {κ ν τ : Type} [DecidableEq κ]

def empty [NeZero n] : RingMap n κ ν τ := ⟨fun _ => none, fun _ => none, 0, nofun⟩

def erase (m : RingMap n κ ν τ) (k : κ) : RingMap n κ ν τ where
  entry := Function.update m.entry k none
  slot := m.slot
  pos := m.pos
  named := by
    intro j v hj
    by_cases hjk : j = k
    · subst hjk
      simp at hj
    · rw [Function.update_of_ne hjk] at hj
      exact m.named j v hj

/-- The table without the key that slot `c` records, and with the slot free. -/
def release (m : RingMap n κ ν τ) (c : Fin n) : RingMap n κ ν τ where
  entry := match m.slot c with
    | some (k, _) => Function.update m.entry k none
    | none => m.entry
  slot := Function.update m.slot c none
  pos := m.pos
  named := by
    intro j v hj
    cases hc : m.slot c with
    | none =>
      simp only [hc] at hj
      obtain ⟨d, t, hd⟩ := m.named j v hj
      have hdc : d ≠ c := by
        rintro rfl
        rw [hc] at hd
        cases hd
      exact ⟨d, t, by rw [Function.update_of_ne hdc, hd]⟩
    | some kt =>
      obtain ⟨k, t'⟩ := kt
      simp only [hc] at hj
      by_cases hjk : j = k
      · subst hjk
        simp at hj
      · rw [Function.update_of_ne hjk] at hj
        obtain ⟨d, t, hd⟩ := m.named j v hj
        have hdc : d ≠ c := by
          rintro rfl
          rw [hc] at hd
          simp only [Option.some.injEq, Prod.mk.injEq] at hd
          exact hjk hd.1.symm
        exact ⟨d, t, by rw [Function.update_of_ne hdc, hd]⟩

/-- Enter `k ↦ v` under the next slot, evicting the key it records. -/
def install [NeZero n] (m : RingMap n κ ν τ) (k : κ) (v : ν) (t : τ) : RingMap n κ ν τ where
  entry := Function.update (m.release m.pos).entry k (some v)
  slot := Function.update m.slot m.pos (some (k, t))
  pos := m.pos + 1
  named := by
    intro j w hj
    by_cases hjk : j = k
    · subst hjk
      exact ⟨m.pos, t, by rw [Function.update_self]⟩
    · rw [Function.update_of_ne hjk] at hj
      obtain ⟨d, t', hd⟩ := (m.release m.pos).named j w hj
      have hdp : d ≠ m.pos := by
        rintro rfl
        simp [release] at hd
      refine ⟨d, t', ?_⟩
      rw [Function.update_of_ne hdp]
      simpa [release, Function.update_of_ne hdp] using hd

def records (p : τ → Bool) (k : κ) : Option (κ × τ) → Bool
  | some (j, t) => decide (j = k) && p t
  | none => false

def drop (p : τ → Bool) (m : RingMap n κ ν τ) : RingMap n κ ν τ where
  entry := fun k => if ∃ c, records p k (m.slot c) = true then none else m.entry k
  slot := fun c => (m.slot c).filter fun kt => !p kt.2
  pos := m.pos
  named := by
    intro k v hk
    split at hk
    · cases hk
    · rename_i hkeep
      obtain ⟨c, t, hc⟩ := m.named k v hk
      refine ⟨c, t, ?_⟩
      have hp : p t = false := by
        rw [Bool.eq_false_iff]
        intro ht
        exact hkeep ⟨c, by simp [hc, records, ht]⟩
      simp [hc, hp]

def flush (m : RingMap n κ ν τ) : RingMap n κ ν τ := m.drop fun _ => true

variable {m : RingMap n κ ν τ}

omit [DecidableEq κ] in
@[simp] lemma empty_entry [NeZero n] (k : κ) : (empty : RingMap n κ ν τ).entry k = none := rfl

lemma entry_of_erase {k j : κ} {v : ν} (h : (m.erase k).entry j = some v) : m.entry j = some v := by
  by_cases hjk : j = k
  · subst hjk
    simp [erase] at h
  · simpa [erase, Function.update_of_ne hjk] using h

lemma entry_of_release {c : Fin n} {j : κ} {v : ν} (h : (m.release c).entry j = some v) :
    m.entry j = some v := by
  cases hc : m.slot c with
  | none => simpa [release, hc] using h
  | some kt =>
    obtain ⟨k, t⟩ := kt
    by_cases hjk : j = k
    · subst hjk
      simp [release, hc] at h
    · simpa [release, hc, Function.update_of_ne hjk] using h

@[simp] lemma install_self [NeZero n] (k : κ) (v : ν) (t : τ) :
    (m.install k v t).entry k = some v := by
  simp [install]

/-- **What a table holds after an install** is the new entry or one it held before. -/
lemma install_entry [NeZero n] {k j : κ} {v w : ν} {t : τ}
    (h : (m.install k v t).entry j = some w) : (j = k ∧ w = v) ∨ (j ≠ k ∧ m.entry j = some w) := by
  by_cases hjk : j = k
  · subst hjk
    rw [install_self, Option.some_inj] at h
    exact .inl ⟨rfl, h.symm⟩
  · refine .inr ⟨hjk, entry_of_release (c := m.pos) ?_⟩
    simpa [install, Function.update_of_ne hjk] using h

lemma entry_of_drop {p : τ → Bool} {j : κ} {v : ν} (h : (m.drop p).entry j = some v) :
    m.entry j = some v := by
  simp only [drop] at h
  split at h
  · cases h
  · exact h

/-- **A flushed table is empty**: every slot is free, and an entry has a slot. -/
@[simp] theorem flush_entry (m : RingMap n κ ν τ) (k : κ) : m.flush.entry k = none := by
  cases h : m.flush.entry k with
  | none => rfl
  | some v =>
    obtain ⟨c, t, hc⟩ := m.flush.named k v h
    have hfree : m.flush.slot c = none := by simp [flush, drop]
    rw [hfree] at hc
    cases hc

@[simp] lemma flush_empty [NeZero n] : (empty : RingMap n κ ν τ).flush = empty := by
  simp only [flush, drop, empty, RingMap.mk.injEq]
  refine ⟨?_, ?_, trivial⟩
  · funext k
    simp [records]
  · funext c
    rfl

end RingMap
