import Mathlib.Data.List.Basic
import Mathlib.Data.List.Nodup

/-!
# A table with one entry a key

The entries are in the order they were put in, each found by its key from the front.  A program with such a
table looks a key up and then writes at the index: what it changes is the entry of that key and no other,
as long as no two entries have the same key.
-/

namespace KeyedTable

variable {α κ : Type} [DecidableEq κ] (key : α → κ)

def index (k : κ) (l : List α) : Option Nat := l.findIdx? fun x => key x == k

/-- The entry of a key. -/
def lookup (k : κ) (l : List α) : Option α := l.find? fun x => key x == k

/-- No two entries have the same key. -/
def Distinct (l : List α) : Prop := (l.map key).Nodup

variable {key} {k k' : κ} {l : List α} {i : Nat} {x : α}

@[simp] lemma index_nil : index key k [] = none := rfl

@[simp] lemma lookup_nil : lookup key k [] = none := rfl

lemma index_cons (y : α) (l : List α) :
    index key k (y :: l) = if key y = k then some 0 else (index key k l).map (· + 1) := by
  simp [index, List.findIdx?_cons]

lemma lookup_cons (y : α) (l : List α) : lookup key k (y :: l) = if key y = k then some y else lookup key k l := by
  by_cases hkey : key y = k <;> simp [lookup, hkey]

lemma lookup_eq : lookup key k l = (index key k l).bind fun i => l[i]? := by
  induction l with
  | nil => rfl
  | cons y l ih =>
    rw [lookup_cons, index_cons, ih]
    by_cases hkey : key y = k
    · rw [if_pos hkey, if_pos hkey]
      rfl
    · rw [if_neg hkey, if_neg hkey]
      cases index key k l <;> rfl

lemma lookup_eq_none : lookup key k l = none ↔ k ∉ l.map key := by
  simp [lookup]

/-! ## Changes -/

lemma lookup_set (hindex : index key k l = some i) (hkey : key x = k) :
    lookup key k' (l.set i x) = if k = k' then some x else lookup key k' l := by
  induction l generalizing i with
  | nil => cases hindex
  | cons y l ih =>
    rw [index_cons] at hindex
    by_cases hy : key y = k
    · rw [if_pos hy] at hindex
      cases hindex
      rw [List.set_cons_zero, lookup_cons, lookup_cons, hkey, hy]
      by_cases hk : k = k'
      · rw [if_pos hk, if_pos hk]
      · rw [if_neg hk, if_neg hk, if_neg hk]
    · rw [if_neg hy] at hindex
      obtain ⟨j, hj, rfl⟩ := Option.map_eq_some_iff.mp hindex
      rw [List.set_cons_succ, lookup_cons, lookup_cons, ih hj]
      by_cases hk : k = k'
      · rw [if_pos hk, if_pos hk, if_neg (hk ▸ hy)]
      · rw [if_neg hk, if_neg hk]

lemma lookup_eraseIdx (hdistinct : Distinct key l) (hindex : index key k l = some i) :
    lookup key k' (l.eraseIdx i) = if k = k' then none else lookup key k' l := by
  induction l generalizing i with
  | nil => cases hindex
  | cons y l ih =>
    obtain ⟨hnot, hrest⟩ := List.nodup_cons.mp hdistinct
    rw [index_cons] at hindex
    by_cases hy : key y = k
    · rw [if_pos hy] at hindex
      cases hindex
      rw [List.eraseIdx_cons_zero, lookup_cons]
      by_cases hk : k = k'
      · rw [if_pos hk, lookup_eq_none, ← hk, ← hy]
        exact hnot
      · rw [if_neg hk, if_neg (hy ▸ hk)]
    · rw [if_neg hy] at hindex
      obtain ⟨j, hj, rfl⟩ := Option.map_eq_some_iff.mp hindex
      rw [List.eraseIdx_cons_succ, lookup_cons, lookup_cons, ih hrest hj]
      by_cases hk : k = k'
      · rw [if_pos hk, if_pos hk, if_neg (hk ▸ hy)]
      · rw [if_neg hk, if_neg hk]

lemma lookup_concat (hnew : index key (key x) l = none) :
    lookup key k (l ++ [x]) = if key x = k then some x else lookup key k l := by
  have hx : lookup key (key x) l = none := by rw [lookup_eq, hnew, Option.bind_none]
  have happend : lookup key k (l ++ [x]) = (lookup key k l).or (lookup key k [x]) := List.find?_append
  rw [happend, lookup_cons, lookup_nil]
  by_cases hk : key x = k
  · rw [if_pos hk, if_pos hk, ← hk, hx, Option.none_or]
  · rw [if_neg hk, if_neg hk, Option.or_none]

/-! ## Distinct keys -/

omit [DecidableEq κ] in
lemma distinct_nil : Distinct key ([] : List α) := List.nodup_nil

lemma Distinct.set (h : Distinct key l) (hindex : index key k l = some i) (hkey : key x = k) :
    Distinct key (l.set i x) := by
  have hsame : (l.set i x).map key = l.map key := by
    obtain ⟨hi, hfound, -⟩ := List.findIdx?_eq_some_iff_getElem.mp hindex
    rw [List.map_set, hkey, ← eq_of_beq hfound, ← List.getElem_map key, List.set_getElem_self]
    rwa [List.length_map]
  rw [Distinct, hsame]
  exact h

omit [DecidableEq κ] in
lemma Distinct.eraseIdx (h : Distinct key l) (i : Nat) : Distinct key (l.eraseIdx i) :=
  h.sublist ((l.eraseIdx_sublist i).map key)

lemma Distinct.concat (h : Distinct key l) (hnew : index key (key x) l = none) : Distinct key (l ++ [x]) := by
  have hx : key x ∉ l.map key := by rw [← lookup_eq_none, lookup_eq, hnew, Option.bind_none]
  rw [Distinct, List.map_append, List.map_singleton, ← List.concat_eq_append]
  exact List.Nodup.concat hx h

end KeyedTable
