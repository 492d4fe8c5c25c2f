import Mathlib.Data.List.Basic

/-!
# Writes laid over a memory

A write is a partial map from places to values, and a memory after it has the value of the write where
there is one.  Writes that are made a second time change nothing that the second time does not change
too: `overlayAll_absorb`.
-/

namespace Overlay

variable {α β : Type}

abbrev Patch (α β : Type) := α → Option β

def overlay (p : Patch α β) (m : α → β) : α → β := fun x => (p x).getD (m x)

def overlayAll (ps : List (Patch α β)) (m : α → β) : α → β := ps.foldl (fun m p => overlay p m) m

@[simp] lemma overlayAll_cons (p : Patch α β) (ps : List (Patch α β)) (m : α → β) :
    overlayAll (p :: ps) m = overlayAll ps (overlay p m) := rfl

lemma overlayAll_of_none {ps : List (Patch α β)} {x : α} (h : ∀ p ∈ ps, p x = none) (m : α → β) :
    overlayAll ps m x = m x := by
  induction ps generalizing m with
  | nil => rfl
  | cons p ps ih =>
    rw [overlayAll_cons, ih (fun q hq => h q (List.mem_cons_of_mem _ hq))]
    simp [overlay, h p List.mem_cons_self]

lemma overlayAll_congr {ps : List (Patch α β)} {m m' : α → β}
    (h : ∀ x, (∃ p ∈ ps, (p x).isSome = true) ∨ m x = m' x) : overlayAll ps m = overlayAll ps m' := by
  induction ps generalizing m m' with
  | nil =>
    funext x
    rcases h x with ⟨p, hp, _⟩ | hx
    · exact absurd hp List.not_mem_nil
    · exact hx
  | cons p ps ih =>
    rw [overlayAll_cons, overlayAll_cons]
    refine ih fun x => ?_
    cases hp : p x with
    | some v => exact Or.inr (by simp [overlay, hp])
    | none =>
      rcases h x with ⟨q, hq, hs⟩ | hx
      · rcases List.mem_cons.mp hq with rfl | hq
        · simp [hp] at hs
        · exact Or.inl ⟨q, hq, hs⟩
      · exact Or.inr (by simp [overlay, hp, hx])

/-- **Writes that are made again** may have been made before in part. -/
lemma overlayAll_absorb {ps qs : List (Patch α β)} (h : ∀ q ∈ qs, q ∈ ps) (m : α → β) :
    overlayAll ps (overlayAll qs m) = overlayAll ps m := by
  refine overlayAll_congr fun x => ?_
  by_cases hx : ∃ q ∈ qs, (q x).isSome = true
  · obtain ⟨q, hq, hs⟩ := hx
    exact Or.inl ⟨q, h q hq, hs⟩
  · refine Or.inr (overlayAll_of_none (fun q hq => ?_) m)
    rw [← Option.not_isSome_iff_eq_none]
    exact fun hs => hx ⟨q, hq, hs⟩

end Overlay
