import Mathlib.Data.List.Basic

/-!
# A text split at the last place a character stands

What a search from the right finds, and what it leaves on either side: a path and its leaf, a name and what is
behind its last comma.
-/

namespace SplitLast

variable {α β : Type} [DecidableEq α] [DecidableEq β]

/-- What stands before and after the last `c`. -/
def splitLast (c : α) : List α → Option (List α × List α)
  | [] => none
  | x :: xs =>
    match splitLast c xs with
    | some (before, after) => some (x :: before, after)
    | none => if x = c then some ([], xs) else none

variable {c : α} {s before after : List α}

lemma splitLast_eq_none : splitLast c s = none ↔ c ∉ s := by
  induction s with
  | nil => simp [splitLast]
  | cons x xs ih =>
    unfold splitLast
    cases hrest : splitLast c xs with
    | none =>
      rw [hrest] at ih
      by_cases hx : x = c
      · simp [hx]
      · simpa [hx, Ne.symm hx] using ih
    | some p =>
      rw [hrest] at ih
      have hmem : c ∈ xs := by simpa using ih
      simp [hmem]

lemma splitLast_append_cons (h : c ∉ after) : splitLast c (before ++ c :: after) = some (before, after) := by
  induction before with
  | nil =>
    show splitLast c (c :: after) = _
    rw [splitLast, splitLast_eq_none.mpr h, if_pos rfl]
  | cons x before ih => rw [List.cons_append, splitLast, ih]

/-- The split is the one whose right side is free of the character. -/
lemma splitLast_eq_some : splitLast c s = some (before, after) ↔ s = before ++ c :: after ∧ c ∉ after := by
  constructor
  · intro h
    induction s generalizing before with
    | nil => cases h
    | cons x xs ih =>
      rw [splitLast] at h
      cases hrest : splitLast c xs with
      | none =>
        rw [hrest] at h
        by_cases hx : x = c
        · rw [if_pos hx] at h
          cases h
          exact ⟨by rw [hx]; rfl, splitLast_eq_none.mp hrest⟩
        · rw [if_neg hx] at h
          cases h
      | some p =>
        rw [hrest] at h
        cases h
        obtain ⟨hxs, hafter⟩ := ih hrest
        exact ⟨by rw [hxs]; rfl, hafter⟩
  · rintro ⟨rfl, h⟩
    exact splitLast_append_cons h

omit [DecidableEq α] in
variable (before) in
lemma getLast?_append_cons (h : c ∉ after) : (before ++ c :: after).getLast? = some c ↔ after = [] := by
  cases after with
  | nil => simp
  | cons x after =>
    refine iff_of_false (fun hlast => h ?_) (List.cons_ne_nil _ _)
    rw [List.getLast?_append, List.getLast?_cons_cons, List.getLast?_eq_some_getLast (List.cons_ne_nil x after)] at hlast
    exact Option.some.inj hlast ▸ List.getLast_mem _

/-- **An encoded text** is split where the text is. -/
lemma splitLast_flatMap {d : β} {f : α → List β} (hc : f c = [d]) (hne : ∀ x ∈ s, x ≠ c → d ∉ f x) :
    splitLast d (s.flatMap f) = (splitLast c s).map fun p => (p.1.flatMap f, p.2.flatMap f) := by
  cases hsplit : splitLast c s with
  | none =>
    rw [Option.map_none, splitLast_eq_none, List.mem_flatMap]
    rintro ⟨x, hx, hd⟩
    exact hne x hx (fun hxc => splitLast_eq_none.mp hsplit (hxc ▸ hx)) hd
  | some p =>
    obtain ⟨before, after⟩ := p
    obtain ⟨rfl, hafter⟩ := splitLast_eq_some.mp hsplit
    have hd : d ∉ after.flatMap f := by
      rw [List.mem_flatMap]
      rintro ⟨x, hx, hd⟩
      exact hne x (by simp [hx]) (fun hxc => hafter (hxc ▸ hx)) hd
    rw [List.flatMap_append, List.flatMap_cons, hc]
    exact splitLast_append_cons hd

end SplitLast
