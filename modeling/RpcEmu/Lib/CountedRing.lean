import Mathlib.Logic.Function.Basic
import Mathlib.Data.List.Basic
import Mathlib.Data.Nat.ModEq

/-!
# Rings with a count

A ring of `n` slots that keeps a count beside its two ends, so that no slot is left free: `head` is the
next slot to be written, `tail` the oldest full one, and the count tells full from empty.
-/

namespace CountedRing

variable {α : Type}

structure Ring (α : Type) where
  slots : Nat → α
  head : Nat
  tail : Nat
  count : Nat

def Ring.push (n : Nat) (r : Ring α) (a : α) : Ring α :=
  { r with slots := Function.update r.slots r.head a, head := (r.head + 1) % n, count := r.count + 1 }

def Ring.pop (n : Nat) (r : Ring α) : Ring α :=
  { r with tail := (r.tail + 1) % n, count := r.count - 1 }

/-- Take `k` out at the tail at once. -/
def Ring.advance (n k : Nat) (r : Ring α) : Ring α :=
  { r with tail := (r.tail + k) % n, count := r.count - k }

def Ring.clear (r : Ring α) : Ring α := { r with head := 0, tail := 0, count := 0 }

/-- What is in the full slots, oldest first. -/
def Ring.contents (n : Nat) (r : Ring α) : List α :=
  (List.range r.count).map fun k => r.slots ((r.tail + k) % n)

/-- The ends are in range and a count apart. -/
structure Good (n : Nat) (r : Ring α) : Prop where
  tail_lt : r.tail < n
  count_le : r.count ≤ n
  head : r.head = (r.tail + r.count) % n

variable {n : Nat} {r : Ring α}

@[simp] lemma length_contents : (r.contents n).length = r.count := by simp [Ring.contents]

@[simp] lemma contents_clear : r.clear.contents n = [] := rfl

lemma good_clear (hn : 0 < n) (r : Ring α) : Good n r.clear := ⟨hn, Nat.zero_le n, by simp [Ring.clear]⟩

lemma Good.push (h : Good n r) (hroom : r.count < n) (a : α) : Good n (r.push n a) where
  tail_lt := h.tail_lt
  count_le := hroom
  head := by
    show (r.head + 1) % n = (r.tail + (r.count + 1)) % n
    rw [h.head, Nat.mod_add_mod, Nat.add_assoc]

lemma Good.pop (h : Good n r) (hfull : 0 < r.count) : Good n (r.pop n) where
  tail_lt := Nat.mod_lt _ (Nat.lt_of_le_of_lt (Nat.zero_le _) h.tail_lt)
  count_le := Nat.le_trans (Nat.sub_le _ _) h.count_le
  head := by
    show r.head = ((r.tail + 1) % n + (r.count - 1)) % n
    have hcount : r.tail + 1 + (r.count - 1) = r.tail + r.count := by omega
    rw [h.head, Nat.mod_add_mod, hcount]

lemma forward_ne (tail : Nat) {k m : Nat} (hk : k < m) (hm : m < n) : (tail + k) % n ≠ (tail + m) % n := by
  intro heq
  have hmod : k ≡ m [MOD n] := Nat.ModEq.add_left_cancel' tail heq
  have hlt := Nat.ModEq.eq_of_lt_of_lt hmod (hk.trans hm) hm
  omega

/-- **Putting one in** adds it at the end. -/
theorem contents_push (h : Good n r) (hroom : r.count < n) (a : α) :
    (r.push n a).contents n = r.contents n ++ [a] := by
  have hlast : (r.push n a).slots ((r.tail + r.count) % n) = a := by
    simp [Ring.push, h.head]
  have hrest : ∀ k ∈ List.range r.count,
      (r.push n a).slots ((r.tail + k) % n) = r.slots ((r.tail + k) % n) := by
    intro k hk
    have hne := forward_ne r.tail (List.mem_range.mp hk) hroom
    rw [← h.head] at hne
    simp [Ring.push, hne]
  show (List.range (r.count + 1)).map (fun k => (r.push n a).slots ((r.tail + k) % n)) = _
  rw [List.range_succ, List.map_append, List.map_congr_left hrest]
  simp [Ring.contents, hlast]

/-- **Taking one out** drops the first. -/
theorem contents_pop (h : Good n r) (hfull : 0 < r.count) :
    r.contents n = r.slots r.tail :: (r.pop n).contents n := by
  obtain ⟨m, hm⟩ : ∃ m, r.count = m + 1 := ⟨r.count - 1, by omega⟩
  have hrest : ∀ k ∈ List.range m, r.slots ((r.tail + (k + 1)) % n) =
      r.slots (((r.tail + 1) % n + k) % n) := by
    intro k _
    rw [Nat.mod_add_mod]
    congr 2
    omega
  have hpop : (r.pop n).contents n = (List.range m).map fun k => r.slots (((r.tail + 1) % n + k) % n) := by
    simp [Ring.contents, Ring.pop, hm]
  rw [hpop, Ring.contents, hm, List.range_succ_eq_map, List.map_cons, List.map_map]
  congr 1
  · rw [Nat.add_zero, Nat.mod_eq_of_lt h.tail_lt]
  · exact List.map_congr_left hrest

lemma Good.advance (h : Good n r) {k : Nat} (hk : k ≤ r.count) : Good n (r.advance n k) where
  tail_lt := Nat.mod_lt _ (Nat.lt_of_le_of_lt (Nat.zero_le _) h.tail_lt)
  count_le := Nat.le_trans (Nat.sub_le _ _) h.count_le
  head := by
    show r.head = ((r.tail + k) % n + (r.count - k)) % n
    have hcount : r.tail + k + (r.count - k) = r.tail + r.count := by omega
    rw [h.head, Nat.mod_add_mod, hcount]

/-- **Taking some out** drops as many. -/
theorem contents_advance (k : Nat) : (r.advance n k).contents n = (r.contents n).drop k := by
  apply List.ext_getElem
  · simp [Ring.advance]
  · intro i h1 h2
    simp only [length_contents] at h1
    simp [Ring.contents, Ring.advance, Nat.add_assoc]

lemma contents_take {k : Nat} (hk : k ≤ r.count) (hend : r.tail + k ≤ n) :
    (List.range k).map (fun i => r.slots (r.tail + i)) = (r.contents n).take k := by
  apply List.ext_getElem
  · simp [hk]
  · intro i h1 h2
    have hi : r.tail + i < n := by
      simp only [List.length_map, List.length_range] at h1
      omega
    simp [Ring.contents, Nat.mod_eq_of_lt hi]

end CountedRing
