import Mathlib.Tactic.Common
import Mathlib.Data.List.Basic

/-!
# Strokes on a canvas

A canvas has a value at every place.  A stroke covers some places: it gives each the value it works out from the
canvas as it finds it, where it is meant to give it a value fixed beforehand.

Strokes drawn one after the other on one canvas may spoil what a later one needs.  Where no two cover a place in
common, the canvas comes out as meant exactly when each stroke works out what it is meant to on the canvas that the
strokes before it were meant to leave (`drawAll_eq_fillAll_iff`).
-/

namespace Strokes

structure Stroke (α β : Type*) where
  covers : α → Bool
  value : (α → β) → α → β
  meant : α → β

variable {α β : Type*} {s t : Stroke α β} {l : List (Stroke α β)} {m : α → β} {a : α}

def Stroke.draw (s : Stroke α β) (m : α → β) : α → β := fun a => if s.covers a then s.value m a else m a

def Stroke.fill (s : Stroke α β) (m : α → β) : α → β := fun a => if s.covers a then s.meant a else m a

def drawAll (l : List (Stroke α β)) (m : α → β) : α → β := l.foldl (fun m s => s.draw m) m

def fillAll (l : List (Stroke α β)) (m : α → β) : α → β := l.foldl (fun m s => s.fill m) m

/-- No place is covered by both. -/
def Apart (s t : Stroke α β) : Prop := ∀ a, s.covers a = true → t.covers a = false

/-- Each place gets what is meant. -/
def Right (s : Stroke α β) (m : α → β) : Prop := ∀ a, s.covers a = true → s.value m a = s.meant a

/-- Each stroke is right when its turn comes. -/
def AllRight : List (Stroke α β) → (α → β) → Prop
  | [], _ => True
  | s :: l, m => Right s m ∧ AllRight l (s.fill m)

@[simp] lemma drawAll_nil : drawAll [] m = m := rfl

@[simp] lemma drawAll_cons : drawAll (s :: l) m = drawAll l (s.draw m) := rfl

@[simp] lemma fillAll_nil : fillAll [] m = m := rfl

@[simp] lemma fillAll_cons : fillAll (s :: l) m = fillAll l (s.fill m) := rfl

lemma drawAll_of_uncovered (h : ∀ s ∈ l, s.covers a = false) : drawAll l m a = m a := by
  induction l generalizing m with
  | nil => rfl
  | cons s l ih =>
    rw [drawAll_cons, ih fun t ht => h t (List.mem_cons_of_mem s ht), Stroke.draw, h s List.mem_cons_self]
    rfl

lemma fillAll_of_uncovered (h : ∀ s ∈ l, s.covers a = false) : fillAll l m a = m a := by
  induction l generalizing m with
  | nil => rfl
  | cons s l ih =>
    rw [fillAll_cons, ih fun t ht => h t (List.mem_cons_of_mem s ht), Stroke.fill, h s List.mem_cons_self]
    rfl

lemma fillAll_of_covered (hl : l.Pairwise Apart) (hs : s ∈ l) (ha : s.covers a = true) :
    fillAll l m a = s.meant a := by
  induction l generalizing m with
  | nil => cases hs
  | cons t l ih =>
    obtain ⟨ht, hl⟩ := List.pairwise_cons.mp hl
    rw [fillAll_cons]
    rcases List.mem_cons.mp hs with rfl | hs
    · rw [fillAll_of_uncovered fun u hu => ht u hu a ha, Stroke.fill, ha]
      rfl
    · exact ih hl hs

lemma draw_of_right (h : Right s m) : s.draw m = s.fill m := by
  funext a
  rw [Stroke.draw, Stroke.fill]
  cases ha : s.covers a with
  | false => rfl
  | true => exact h a ha

/-- Filling `s` leaves `t` right. -/
def Spares (s t : Stroke α β) : Prop := ∀ m, Right t m → Right t (s.fill m)

lemma allRight_of_spares (hl : l.Pairwise Spares) (hright : ∀ s ∈ l, Right s m) : AllRight l m := by
  induction l generalizing m with
  | nil => trivial
  | cons s l ih =>
    obtain ⟨hs, hl⟩ := List.pairwise_cons.mp hl
    exact ⟨hright s List.mem_cons_self,
      ih hl fun t ht => hs t ht m (hright t (List.mem_cons_of_mem s ht))⟩

/-- **Strokes that keep apart** give the canvas they are meant to exactly when none needs what one before it has
spoilt. -/
theorem drawAll_eq_fillAll_iff (hl : l.Pairwise Apart) : drawAll l m = fillAll l m ↔ AllRight l m := by
  induction l generalizing m with
  | nil => exact iff_of_true rfl trivial
  | cons s l ih =>
    obtain ⟨hs, hl'⟩ := List.pairwise_cons.mp hl
    rw [drawAll_cons, fillAll_cons, AllRight]
    constructor
    · intro h
      -- no later stroke covers what this one does, so it was right
      have hright : Right s m := by
        intro a ha
        have hlater : ∀ t ∈ l, t.covers a = false := fun t ht => hs t ht a ha
        have hat := congrFun h a
        rw [drawAll_of_uncovered hlater, fillAll_of_uncovered hlater, Stroke.draw, Stroke.fill, ha] at hat
        exact hat
      rw [draw_of_right hright] at h
      exact ⟨hright, (ih hl').mp h⟩
    · rintro ⟨hright, hrest⟩
      rw [draw_of_right hright]
      exact (ih hl').mpr hrest

end Strokes
