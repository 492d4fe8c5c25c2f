import Mathlib.Logic.Function.Basic
import Mathlib.Data.List.Basic
import Mathlib.Tactic.Common

/-!
# Rings that are written over

A ring of `n` slots with one place, `next`, where the next write goes, whatever is there.  `walk` reads it
from that place on, so oldest first, and `walk_write` is all there is to a write: the oldest falls off one
end and the new one is put on the other.
-/

namespace WrittenOver

variable {α : Type}

def walk (n : Nat) (slots : Nat → α) (next : Nat) : List α :=
  (List.range n).map fun i => slots ((next + i) % n)

variable {n : Nat} {slots : Nat → α} {next : Nat}

@[simp] lemma length_walk : (walk n slots next).length = n := by simp [walk]

lemma walk_const (a : α) : walk n (fun _ => a) next = List.replicate n a := by
  simp [walk, List.map_const']

theorem walk_write (h : next < n) (a : α) :
    walk n (Function.update slots next a) ((next + 1) % n) = (walk n slots next).tail ++ [a] := by
  obtain ⟨m, rfl⟩ : ∃ m, n = m + 1 := ⟨n - 1, by omega⟩
  have hfirst : walk (m + 1) slots next =
      slots (next % (m + 1)) :: (List.range m).map fun i => slots ((next + (i + 1)) % (m + 1)) := by
    simp [walk, List.range_succ_eq_map, Function.comp_def]
  have hrest : ∀ i ∈ List.range m,
      Function.update slots next a (((next + 1) % (m + 1) + i) % (m + 1)) =
        slots ((next + (i + 1)) % (m + 1)) := by
    intro i hi
    have hi := List.mem_range.mp hi
    have hidx : ((next + 1) % (m + 1) + i) % (m + 1) = (next + (i + 1)) % (m + 1) := by
      rw [Nat.mod_add_mod]
      congr 1
      omega
    have hne : (next + (i + 1)) % (m + 1) ≠ next := by
      rcases Nat.lt_or_ge (next + (i + 1)) (m + 1) with hlt | hge
      · rw [Nat.mod_eq_of_lt hlt]
        omega
      · rw [Nat.mod_eq_sub_mod hge, Nat.mod_eq_of_lt (by omega)]
        omega
    rw [hidx, Function.update_of_ne hne]
  have hlast : ((next + 1) % (m + 1) + m) % (m + 1) = next := by
    have hround : next + 1 + m = next + (m + 1) := by omega
    rw [Nat.mod_add_mod, hround, Nat.add_mod_right, Nat.mod_eq_of_lt h]
  rw [hfirst, List.tail_cons, walk, List.range_succ, List.map_append, List.map_congr_left hrest,
    List.map_singleton, hlast, Function.update_self]

end WrittenOver
