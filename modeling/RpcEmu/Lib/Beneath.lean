import RpcEmu.Lib.SplitLast

/-!
# Paths beneath a directory

A path is a text with a separator between its components, some of which, like a parent's name, lead elsewhere.

* `Below root p` — the path is the root, or the root and a clean path behind it, by its spelling alone.
* What is kept: a clean piece behind (`Below.child`), the last component taken off (`Below.parent`); and what is
  below one root and spelled with another in front is below that one too (`Below.of_spelled`).
* `Above p path` — the path is `p` and what is under it; on the way to a clean path are the root's own places and
  clean paths (`Above.beneath`).
-/

namespace Beneath

open SplitLast

variable {α : Type} [DecidableEq α] {sep : α} {bad : List α → Bool}

/-- No component is one of those. -/
def Clean (sep : α) (bad : List α → Bool) (p : List α) : Prop := (p.splitOn sep).all (fun c => !bad c) = true

instance (p : List α) : Decidable (Clean sep bad p) := inferInstanceAs (Decidable (_ = true))

/-- The root, or a clean path beneath it. -/
def Below (sep : α) (bad : List α → Bool) (root p : List α) : Prop :=
  p = root ∨ ∃ rest, p = root ++ sep :: rest ∧ Clean sep bad rest

variable {root p a b : List α}

lemma below_iff :
    Below sep bad root p ↔
      p = root ∨ (root ++ [sep]).isPrefixOf p = true ∧ Clean sep bad (p.drop (root.length + 1)) := by
  have hdrop : ∀ rest, (root ++ sep :: rest).drop (root.length + 1) = rest := fun rest => by simp
  refine or_congr_right ⟨?_, ?_⟩
  · rintro ⟨rest, rfl, hrest⟩
    rw [hdrop]
    exact ⟨List.isPrefixOf_iff_prefix.mpr ⟨rest, by simp⟩, hrest⟩
  · rintro ⟨hpre, hrest⟩
    obtain ⟨rest, rfl⟩ := List.isPrefixOf_iff_prefix.mp hpre
    rw [List.append_assoc, List.singleton_append, hdrop] at hrest
    exact ⟨rest, by simp, hrest⟩

instance : Decidable (Below sep bad root p) := decidable_of_iff _ below_iff.symm

lemma clean_append_cons : Clean sep bad (a ++ sep :: b) ↔ Clean sep bad a ∧ Clean sep bad b := by
  rw [Clean, Clean, Clean, List.splitOn_append_cons_self, List.all_append, Bool.and_eq_true]

lemma clean_plain (h : sep ∉ p) : Clean sep bad p ↔ bad p = false := by
  rw [Clean, List.splitOn_eq_singleton h]
  simp

lemma Clean.append (h : Clean sep bad a) (hb : sep ∉ b) (hbad : ∀ c, bad c = false → bad (c ++ b) = false) :
    Clean sep bad (a ++ b) := by
  cases hsplit : splitLast sep a with
  | none =>
    have ha := splitLast_eq_none.mp hsplit
    refine (clean_plain ?_).mpr (hbad a ((clean_plain ha).mp h))
    rw [List.mem_append]
    exact not_or.mpr ⟨ha, hb⟩
  | some q =>
    obtain ⟨before, after⟩ := q
    obtain ⟨rfl, hafter⟩ := splitLast_eq_some.mp hsplit
    obtain ⟨hbefore, hlast⟩ := clean_append_cons.mp h
    rw [List.append_assoc, List.cons_append]
    refine clean_append_cons.mpr ⟨hbefore, (clean_plain ?_).mpr (hbad after ((clean_plain hafter).mp hlast))⟩
    rw [List.mem_append]
    exact not_or.mpr ⟨hafter, hb⟩

lemma Below.refl (root : List α) : Below sep bad root root := .inl rfl

lemma Below.child (hp : Below sep bad root p) (ha : Clean sep bad a) : Below sep bad root (p ++ sep :: a) := by
  rcases hp with rfl | ⟨rest, rfl, hrest⟩
  · exact .inr ⟨a, rfl, ha⟩
  · exact .inr ⟨rest ++ sep :: a, by simp, clean_append_cons.mpr ⟨hrest, ha⟩⟩

lemma Below.parent {dir leaf : List α} (hp : Below sep bad root p) (hne : p ≠ root)
    (hsplit : splitLast sep p = some (dir, leaf)) : Below sep bad root dir := by
  obtain ⟨rest, rfl, hrest⟩ := hp.resolve_left hne
  cases hlast : splitLast sep rest with
  | none =>
    rw [splitLast_append_cons (splitLast_eq_none.mp hlast)] at hsplit
    obtain ⟨rfl, -⟩ := Prod.mk.inj (Option.some.inj hsplit)
    exact .refl _
  | some q =>
    obtain ⟨before, after⟩ := q
    obtain ⟨rfl, hafter⟩ := splitLast_eq_some.mp hlast
    have hwhole : root ++ sep :: (before ++ sep :: after) = (root ++ sep :: before) ++ sep :: after := by simp
    rw [hwhole, splitLast_append_cons hafter] at hsplit
    obtain ⟨rfl, -⟩ := Prod.mk.inj (Option.some.inj hsplit)
    exact .inr ⟨before, rfl, (clean_append_cons.mp hrest).1⟩

/-- **Spelled beneath another root**: what is below one and starts with the other is below the other, if the first
is clean beneath the other or not beneath it. -/
lemma Below.of_spelled {other u : List α} (hp : Below sep bad root p) (hspelled : p = other ++ u)
    (hu : u = [] ∨ u.head? = some sep) (hroots : ∀ x, root = other ++ sep :: x → Clean sep bad x) :
    Below sep bad other p := by
  rcases hu with rfl | hu
  · exact .inl (by simpa using hspelled)
  obtain ⟨r, rfl⟩ : ∃ r, u = sep :: r := List.head?_eq_some_iff.mp hu
  refine .inr ⟨r, hspelled, ?_⟩
  rcases hp with rfl | ⟨rest, rfl, hrest⟩
  · exact hroots r hspelled
  · -- which of the two roots is the longer one
    rcases List.append_eq_append_iff.mp hspelled with ⟨x, hother, hx⟩ | ⟨x, hroot, hx⟩
    · cases x with
      | nil =>
        obtain ⟨-, rfl⟩ := List.cons.inj hx
        exact hrest
      | cons y x =>
        obtain ⟨-, rfl⟩ := List.cons.inj hx
        exact (clean_append_cons.mp hrest).2
    · cases x with
      | nil =>
        obtain ⟨-, rfl⟩ := List.cons.inj hx
        exact hrest
      | cons y x =>
        obtain ⟨rfl, rfl⟩ := List.cons.inj hx
        exact clean_append_cons.mpr ⟨hroots x hroot, hrest⟩

/-! ## On the way down to a path -/

/-- `path` goes on from `p` at a separator. -/
def Above (sep : α) (p path : List α) : Prop := ∃ rest, path = p ++ rest ∧ (rest = [] ∨ rest.head? = some sep)

omit [DecidableEq α] in
lemma Above.refl (p : List α) : Above sep p p := ⟨[], (List.append_nil p).symm, .inl rfl⟩

lemma Above.beneath {rest : List α} (h : Above sep p (root ++ sep :: rest)) (hrest : Clean sep bad rest) :
    Above sep p root ∨ ∃ part, p = root ++ sep :: part ∧ Clean sep bad part := by
  obtain ⟨u, hu, hends⟩ := h
  rcases List.append_eq_append_iff.mp hu with ⟨x, hp, hx⟩ | ⟨x, hroot, hx⟩
  · cases x with
    | nil =>
      rw [List.append_nil] at hp
      exact .inl (hp ▸ .refl _)
    | cons y part =>
      obtain ⟨rfl, hpart⟩ : sep = y ∧ rest = part ++ u := List.cons.inj hx
      refine .inr ⟨part, hp, ?_⟩
      rcases hends with rfl | hsep
      · rwa [hpart, List.append_nil] at hrest
      · obtain ⟨v, rfl⟩ : ∃ v, u = sep :: v := List.head?_eq_some_iff.mp hsep
        rw [hpart] at hrest
        exact (clean_append_cons.mp hrest).1
  · refine .inl ⟨x, hroot, ?_⟩
    cases x with
    | nil => exact .inl rfl
    | cons y x =>
      obtain ⟨rfl, -⟩ : y = sep ∧ _ := by
        rcases hends with rfl | hsep
        · cases hx
        · rw [hx] at hsep
          exact ⟨Option.some.inj hsep, trivial⟩
      exact .inr rfl

end Beneath
