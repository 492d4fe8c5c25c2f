import Mathlib.Data.List.Basic
import Mathlib.Data.List.Infix

/-!
# Lines of a stream

A stream is cut at a separator.  What is before the last separator is complete lines, and what is after it
is the start of a line that has not ended.
-/

namespace Lines

variable {α : Type}

def complete [DecidableEq α] (sep : α) (stream : List α) : List (List α) := (stream.splitOn sep).dropLast

def joined (sep : α) (lines : List (List α)) : List α := (lines.map (· ++ [sep])).flatten

variable {sep : α}

@[simp] lemma joined_nil : joined sep [] = [] := rfl

@[simp] lemma joined_cons (line : List α) (lines : List (List α)) :
    joined sep (line :: lines) = line ++ sep :: joined sep lines := by
  simp [joined]

lemma joined_append (lines lines' : List (List α)) :
    joined sep (lines ++ lines') = joined sep lines ++ joined sep lines' := by
  simp [joined]

variable [DecidableEq α]

lemma splitOn_joined {lines : List (List α)} (h : ∀ line ∈ lines, sep ∉ line) (rest : List α) :
    (joined sep lines ++ rest).splitOn sep = lines ++ rest.splitOn sep := by
  induction lines with
  | nil => rfl
  | cons line lines ih =>
    obtain ⟨hline, hlines⟩ := List.forall_mem_cons.mp h
    rw [joined_cons, List.append_assoc, List.cons_append, List.splitOn_append_cons_self_of_not_mem hline,
      ih hlines, List.cons_append]

lemma complete_joined {lines : List (List α)} (h : ∀ line ∈ lines, sep ∉ line) (rest : List α) :
    complete sep (joined sep lines ++ rest) = lines ++ complete sep rest := by
  rw [complete, splitOn_joined h, List.dropLast_append_of_ne_nil (List.splitOn_ne_nil sep rest), complete]

lemma complete_of_notMem {rest : List α} (h : sep ∉ rest) : complete sep rest = [] := by
  rw [complete, List.splitOn_eq_singleton h, List.dropLast_singleton]

lemma mem_splitOn_joined {lines : List (List α)} (h : ∀ line ∈ lines, sep ∉ line) {rest : List α}
    (hrest : sep ∉ rest) : rest ∈ (joined sep lines ++ rest).splitOn sep := by
  rw [splitOn_joined h, List.splitOn_eq_singleton hrest]
  exact List.mem_append_right _ (List.mem_singleton_self rest)

lemma exists_joined (sep : α) (stream : List α) :
    ∃ lines rest, stream = joined sep lines ++ rest ∧ (∀ line ∈ lines, sep ∉ line) ∧ sep ∉ rest := by
  induction stream with
  | nil => exact ⟨[], [], rfl, by simp, by simp⟩
  | cons x stream ih =>
    obtain ⟨lines, rest, rfl, hlines, hrest⟩ := ih
    by_cases hx : x = sep
    · subst hx
      exact ⟨[] :: lines, rest, by simp, List.forall_mem_cons.mpr ⟨by simp, hlines⟩, hrest⟩
    · have hne : sep ≠ x := fun h => hx h.symm
      cases lines with
      | nil => exact ⟨[], x :: rest, rfl, by simp, by simp [hne, hrest]⟩
      | cons line lines =>
        obtain ⟨hline, hlines⟩ := List.forall_mem_cons.mp hlines
        refine ⟨(x :: line) :: lines, rest, by simp, List.forall_mem_cons.mpr ⟨?_, hlines⟩, hrest⟩
        simp [hne, hline]

lemma exists_longer {stream : List α} {line : List α} (hline : line ∈ stream.splitOn sep)
    (more : List α) : ∃ line' ∈ (stream ++ more).splitOn sep, line.length ≤ line'.length := by
  obtain ⟨lines, rest, rfl, hlines, hrest⟩ := exists_joined sep stream
  rw [splitOn_joined hlines, List.splitOn_eq_singleton hrest, List.mem_append, List.mem_singleton] at hline
  rw [List.append_assoc, splitOn_joined hlines]
  rcases hline with hline | rfl
  · exact ⟨line, List.mem_append_left _ hline, le_refl _⟩
  obtain ⟨lines', rest', rfl, hlines', hrest'⟩ := exists_joined sep more
  cases lines' with
  | nil =>
    refine ⟨line ++ rest', List.mem_append_right _ ?_, by simp⟩
    rw [joined_nil, List.nil_append, List.splitOn_eq_singleton (by simp [hrest, hrest'])]
    exact List.mem_singleton_self _
  | cons first lines' =>
    have hfirst := (List.forall_mem_cons.mp hlines').1
    refine ⟨line ++ first, List.mem_append_right _ ?_, by simp⟩
    rw [joined_cons, List.append_assoc, List.cons_append, ← List.append_assoc,
      List.splitOn_append_cons_self_of_not_mem (by simp [hrest, hfirst])]
    exact List.mem_cons_self

end Lines
