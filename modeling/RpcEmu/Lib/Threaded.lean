import Mathlib.Data.List.Basic
import Mathlib.Tactic.Common

/-!
# Lists threaded through a memory

A list whose elements are places of a memory, each holding the link to the next.  `Threaded link z a l` says
that from `a` the links lead through `l` to `z`, which is where the list ends.

* **Frame.**  A list is what it was as long as the links of its own elements are
  (`threaded_congr`), so it is not disturbed by what happens to any other place.
* **Push.**  A place that is put in front by writing one link (`threaded_push`).
* **Reading.**  `follow` reads a list back; on one that is threaded it gives exactly that
  (`follow_of_threaded`), however much further it would have been prepared to go.
-/

namespace Threads

variable {α : Type}

/-- From `a` the links lead through `l`, and then to `z`. -/
def Threaded (link : α → α) (z : α) : α → List α → Prop
  | a, [] => a = z
  | a, t :: ts => a = t ∧ t ≠ z ∧ Threaded link z (link t) ts

/-- The list that starts at `a`, if it ends within `n` places. -/
def follow [DecidableEq α] (link : α → α) (z : α) : ℕ → α → Option (List α)
  | 0, a => if a = z then some [] else none
  | n + 1, a => if a = z then some [] else (follow link z n (link a)).map (a :: ·)

variable {link link' : α → α} {z a b t : α} {l ts : List α}

@[simp] lemma threaded_nil : Threaded link z a [] ↔ a = z := Iff.rfl

@[simp] lemma threaded_cons : Threaded link z a (t :: ts) ↔ a = t ∧ t ≠ z ∧ Threaded link z (link t) ts :=
  Iff.rfl

lemma threaded_congr (h : ∀ t ∈ l, link' t = link t) : Threaded link' z a l ↔ Threaded link z a l := by
  induction l generalizing a with
  | nil => simp
  | cons t ts ih =>
    rw [threaded_cons, threaded_cons, h t List.mem_cons_self, ih fun x hx => h x (List.mem_cons_of_mem t hx)]

lemma threaded_push (h : Threaded link z a l) (hlink : link' t = a) (hsame : ∀ x ∈ l, link' x = link x)
    (hz : t ≠ z) : Threaded link' z t (t :: l) := by
  refine ⟨rfl, hz, ?_⟩
  rw [hlink]
  exact (threaded_congr hsame).mpr h

lemma Threaded.exists_cons (h : Threaded link z a l) (ha : a ≠ z) :
    ∃ ts, l = a :: ts ∧ Threaded link z (link a) ts := by
  cases l with
  | nil => exact absurd h ha
  | cons t ts =>
    obtain ⟨rfl, -, hrest⟩ := h
    exact ⟨ts, rfl, hrest⟩

lemma follow_of_threaded [DecidableEq α] (h : Threaded link z a l) {n : ℕ} (hn : l.length ≤ n) :
    follow link z n a = some l := by
  induction l generalizing a n with
  | nil =>
    obtain rfl : a = z := h
    cases n <;> simp [follow]
  | cons t ts ih =>
    obtain ⟨rfl, hz, hrest⟩ := h
    cases n with
    | zero => simp at hn
    | succ n => simp [follow, hz, ih hrest (Nat.succ_le_succ_iff.mp hn)]

end Threads
