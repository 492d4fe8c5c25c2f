import Mathlib.Data.Set.Insert
import Mathlib.Tactic.Tauto

/-!
# Switches that are told about

One side has a set of switches that are down and tells the other of every change; the other side knows
only the messages.  `Told d ms d'` says that the messages `ms` take a receiver that believes `d` to one
that believes `d'`, with each message news to it: a press only of a switch that is up, a release only
of one that is down.

It composes (`Told.append`), so a run is told if each of its steps is.
-/

namespace Switches

variable {α : Type}

inductive Msg (α : Type)
  | press (a : α)
  | release (a : α)
  deriving DecidableEq, Repr

def Msg.apply (d : Set α) : Msg α → Set α
  | press a => insert a d
  | release a => d \ {a}

/-- What a message would tell the receiver of switch `a`: that it is down, or that it is up. -/
def Msg.about [DecidableEq α] (a : α) : Msg α → Option Bool
  | press b => if b = a then some true else none
  | release b => if b = a then some false else none

def believed (d : Set α) (ms : List (Msg α)) : Set α := ms.foldl Msg.apply d

/-- The message says something that is not so already. -/
def Msg.News (d : Set α) : Msg α → Prop
  | press a => a ∉ d
  | release a => a ∈ d

/-- **The messages tell `d'` to a receiver that believes `d`**, and each is news. -/
def Told (d : Set α) : List (Msg α) → Set α → Prop
  | [], d' => d = d'
  | m :: ms, d' => m.News d ∧ Told (m.apply d) ms d'

/-- Each is the opposite of the one before it, and the first of `b`. -/
def Alternates : Bool → List Bool → Prop
  | _, [] => True
  | b, x :: xs => x = !b ∧ Alternates x xs

@[simp] lemma believed_nil (d : Set α) : believed d [] = d := rfl

@[simp] lemma believed_cons (d : Set α) (m : Msg α) (ms : List (Msg α)) :
    believed d (m :: ms) = believed (m.apply d) ms := rfl

lemma Told.refl (d : Set α) : Told d [] d := rfl

lemma Told.append {ms ms' : List (Msg α)} {d d' d'' : Set α} (h : Told d ms d')
    (h' : Told d' ms' d'') : Told d (ms ++ ms') d'' := by
  induction ms generalizing d with
  | nil =>
    simp only [Told] at h
    subst h
    simpa using h'
  | cons m ms ih =>
    obtain ⟨hnews, htold⟩ := h
    exact ⟨hnews, ih htold⟩

lemma Told.believed {ms : List (Msg α)} {d d' : Set α} (h : Told d ms d') : believed d ms = d' := by
  induction ms generalizing d with
  | nil => exact h
  | cons m ms ih => exact ih h.2

lemma Told.press {a : α} {d : Set α} (h : a ∉ d) : Told d [.press a] (insert a d) := ⟨h, rfl⟩

lemma Told.release {a : α} {d : Set α} (h : a ∈ d) : Told d [.release a] (d \ {a}) := ⟨h, rfl⟩

section About

variable [DecidableEq α]

def about (a : α) (ms : List (Msg α)) : List Bool := ms.filterMap (Msg.about a)

lemma Msg.about_of_news {a : α} {d : Set α} {m : Msg α} {b : Bool} (hb : b = true ↔ a ∈ d)
    (h : m.News d) :
    (m.about a = none ∧ (b = true ↔ a ∈ m.apply d)) ∨
      (m.about a = some (!b) ∧ ((!b) = true ↔ a ∈ m.apply d)) := by
  cases m with
  | press c =>
    by_cases hc : c = a
    · subst hc
      have hup : b = false := by
        cases b with
        | false => rfl
        | true => exact absurd (hb.mp rfl) h
      subst hup
      right
      simp [Msg.about, Msg.apply]
    · left
      simp [Msg.about, Msg.apply, hc, hb, Ne.symm hc]
  | release c =>
    by_cases hc : c = a
    · subst hc
      have hdown : b = true := hb.mpr h
      subst hdown
      right
      simp [Msg.about, Msg.apply]
    · left
      simp [Msg.about, Msg.apply, hc, hb, Ne.symm hc]

/-- **Press, release, press and so on**, for each switch. -/
theorem Told.alternates {ms : List (Msg α)} {d d' : Set α} (h : Told d ms d') (a : α) (b : Bool)
    (hb : b = true ↔ a ∈ d) : Alternates b (about a ms) := by
  induction ms generalizing d b with
  | nil => simp [about, Alternates]
  | cons m ms ih =>
    obtain ⟨hnews, htold⟩ := h
    rcases Msg.about_of_news hb hnews with ⟨hm, hb'⟩ | ⟨hm, hb'⟩
    · have hrest := ih htold b hb'
      simpa [about, List.filterMap_cons, hm] using hrest
    · have hrest := ih htold (!b) hb'
      have hcons : about a (m :: ms) = (!b) :: about a ms := by simp [about, List.filterMap_cons, hm]
      rw [hcons]
      exact ⟨rfl, hrest⟩

end About

lemma Told.releases {as : List α} {d : Set α} (hnodup : as.Nodup) (hdown : ∀ a ∈ as, a ∈ d) :
    Told d (as.map .release) {x ∈ d | x ∉ as} := by
  induction as generalizing d with
  | nil => simp [Told]
  | cons a as ih =>
    rw [List.nodup_cons] at hnodup
    have hrest : ∀ x ∈ as, x ∈ d \ {a} := by
      intro x hx
      refine ⟨hdown x (by simp [hx]), ?_⟩
      rintro rfl
      exact hnodup.1 hx
    have hset : {x ∈ d | x ∉ a :: as} = {x ∈ d \ {a} | x ∉ as} := by
      ext x
      simp only [List.mem_cons, not_or, Set.mem_ofPred_eq, Set.mem_sdiff, Set.mem_singleton_iff]
      tauto
    rw [hset]
    exact ⟨hdown a (by simp), ih hnodup.2 hrest⟩

end Switches
