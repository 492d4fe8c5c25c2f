import Mathlib.Data.List.Basic
import Mathlib.Tactic.SplitIfs

/-!
# Ring indexes with a one-slot gap

A ring of `n` slots between a `tail` (the oldest full slot) and a `head` (the next free one).  One
slot is always left free, so that `head = tail` means empty and never full; a ring of `n` slots
thus holds at most `n - 1` things.
-/

namespace Ring

/-- The slot after `i`. -/
def next (n i : Nat) : Nat := if n ≤ i + 1 then 0 else i + 1

/-- How far forward `head` is from `tail`. -/
def dist (n tail head : Nat) : Nat := if tail ≤ head then head - tail else n - (tail - head)

/-- The slot `k` steps forward from `tail`, for `k < n`. -/
def forward (n tail k : Nat) : Nat := if tail + k < n then tail + k else tail + k - n

/-- The full slots, oldest first. -/
def slots (n tail head : Nat) : List Nat := (List.range (dist n tail head)).map (forward n tail)

variable {n tail head : Nat}

lemma next_lt {i : Nat} (hi : i < n) : next n i < n := by
  unfold next
  split_ifs <;> omega

lemma dist_lt (ht : tail < n) (hh : head < n) : dist n tail head < n := by
  unfold dist
  split_ifs <;> omega

@[simp] lemma dist_self : dist n tail tail = 0 := by simp [dist]

lemma forward_lt {k : Nat} (ht : tail < n) (hk : k < n) : forward n tail k < n := by
  unfold forward
  split_ifs <;> omega

lemma forward_dist (ht : tail < n) (hh : head < n) : forward n tail (dist n tail head) = head := by
  unfold forward dist
  split_ifs <;> omega

lemma dist_forward {k : Nat} (ht : tail < n) (hk : k < n) : dist n tail (forward n tail k) = k := by
  unfold forward dist
  split_ifs <;> omega

/-- **Full means one slot left**: the head may not move onto the tail. -/
lemma next_eq_tail_iff (ht : tail < n) (hh : head < n) :
    next n head = tail ↔ dist n tail head = n - 1 := by
  unfold next dist
  split_ifs <;> omega

lemma dist_eq_zero_iff (ht : tail < n) : dist n tail head = 0 ↔ tail = head := by
  unfold dist
  split_ifs <;> omega

lemma dist_next_head (ht : tail < n) (hh : head < n) (hf : next n head ≠ tail) :
    dist n tail (next n head) = dist n tail head + 1 := by
  unfold next dist at *
  split_ifs at * <;> omega

lemma dist_skip {tail' : Nat} (ht : tail < n) (ht' : tail' < n) (hh : head < n)
    (hle : dist n tail tail' ≤ dist n tail head) :
    dist n tail' head = dist n tail head - dist n tail tail' := by
  unfold dist at *
  split_ifs at * <;> omega

lemma dist_overtake {tail' : Nat} (ht : tail < n) (ht' : tail' < n)
    (hlt : dist n tail head < dist n tail tail') : 0 < dist n tail' head := by
  unfold dist at *
  split_ifs at * <;> omega

@[simp] lemma length_slots : (slots n tail head).length = dist n tail head := by simp [slots]

lemma lt_of_mem_slots {i : Nat} (ht : tail < n) (hh : head < n) (hi : i ∈ slots n tail head) :
    i < n := by
  obtain ⟨k, hk, rfl⟩ := List.mem_map.mp hi
  have hd := dist_lt ht hh
  exact forward_lt ht (Nat.lt_trans (List.mem_range.mp hk) hd)

lemma head_notMem_slots (ht : tail < n) (hh : head < n) : head ∉ slots n tail head := by
  intro hm
  obtain ⟨k, hk, hf⟩ := List.mem_map.mp hm
  have hlt := List.mem_range.mp hk
  have hd := dist_lt ht hh
  have hk' := dist_forward ht (Nat.lt_trans hlt hd)
  rw [hf] at hk'
  omega

/-- **Pushing** fills the head's slot. -/
lemma slots_push (ht : tail < n) (hh : head < n) (hf : next n head ≠ tail) :
    slots n tail (next n head) = slots n tail head ++ [head] := by
  rw [slots, dist_next_head ht hh hf, List.range_succ, List.map_append]
  simp only [List.map_cons, List.map_nil, forward_dist ht hh]
  rfl

/-- **Moving the tail forward** drops the slots it passes. -/
lemma slots_skip {tail' : Nat} (ht : tail < n) (ht' : tail' < n) (hh : head < n)
    (hle : dist n tail tail' ≤ dist n tail head) :
    slots n tail' head = (slots n tail head).drop (dist n tail tail') := by
  have hd := dist_skip ht ht' hh hle
  have hlt := dist_lt ht hh
  apply List.ext_getElem
  · rw [length_slots, List.length_drop, length_slots, hd]
  · intro k hk hk'
    rw [length_slots] at hk
    simp only [slots, List.getElem_map, List.getElem_range, List.getElem_drop]
    unfold forward dist at *
    split_ifs at * <;> omega

/-- **Popping** frees the tail's slot. -/
lemma slots_pop (ht : tail < n) (hh : head < n) (hne : tail ≠ head) :
    slots n tail head = tail :: slots n (next n tail) head := by
  have hpos : 0 < dist n tail head := by
    have hz : dist n tail head = 0 ↔ tail = head := dist_eq_zero_iff ht
    omega
  have hone : dist n tail (next n tail) = 1 := by
    unfold next dist at *
    split_ifs at * <;> omega
  have hskip := slots_skip ht (next_lt ht) hh (by omega)
  have hfirst : (slots n tail head).take 1 = [tail] := by
    obtain ⟨m, hm⟩ : ∃ m, dist n tail head = m + 1 := ⟨_, (Nat.succ_pred_eq_of_pos hpos).symm⟩
    simp only [slots, hm, List.range_succ_eq_map, List.map_cons, List.take_succ_cons,
      List.take_zero]
    simp [forward, ht]
  rw [hskip, hone, ← List.singleton_append, ← hfirst, List.take_append_drop]

end Ring
