import RpcEmu.Copro.CpuMem

/-!
# What an instruction's accesses leave in its core

The cores differ in their registers and agree on how they take a bad reply: a stall sets a flag and
the instruction goes on with a zero, a bus error sets another and the instruction goes on too.
`CoreView` names the parts of a core that this is about, and `CoreView.Kept` is what a piece of code
does to them, whatever the replies: **the two flags say exactly which replies came back**, and while
the core has not faulted the rest of it — all but the registers — is as it was.

A piece of code may also refuse the opcode it is given, which sets the fault flag whatever the replies
were; that is what the `Bool` of `Kept` says.

`Kept` composes along sequencing, so that it is proved for the two memory helpers of a core and for
its register updates, and then for every instruction made of them.
-/

namespace RpcEmu

open Effects

/-- The parts of a core an access can change, and those (`rest`) that only the end of an instruction
may. -/
structure CoreView (σ κ : Type) where
  hooked : σ → Bool
  stalled : σ → Bool
  faulted : σ → Bool
  rest : σ → κ

namespace CoreView

variable {σ κ α β : Type} (V : CoreView σ κ)

/-- The flags say what the accesses have met. -/
structure Tracked (s : σ) (tr : List CpuAsked) (t : σ) : Prop where
  hooked : V.hooked t = V.hooked s
  stalled : V.stalled t = (V.stalled s || anyStall tr)
  unhooked : V.hooked s = false → anyStall tr = false

/-- What a piece of an instruction does to a core; `refuses` if it is an opcode the core does not
have. -/
structure Kept (refuses : Bool) (s : σ) (tr : List CpuAsked) (t : σ) : Prop
    extends V.Tracked s tr t where
  faulted : V.hooked s = true → V.faulted t = (V.faulted s || anyBusError tr || refuses)
  rest : V.hooked s = true → V.faulted t = false → V.rest t = V.rest s

/-- The states differ in nothing the view shows. -/
structure SameBut (s t : σ) : Prop where
  hooked : V.hooked t = V.hooked s
  stalled : V.stalled t = V.stalled s
  faulted : V.faulted t = V.faulted s
  rest : V.rest t = V.rest s

variable {V}

lemma Tracked.refl (s : σ) : V.Tracked s [] s where
  hooked := rfl
  stalled := (Bool.or_false _).symm
  unhooked _ := rfl

lemma Tracked.trans {s t u : σ} {tr tr' : List CpuAsked} (h : V.Tracked s tr t)
    (h' : V.Tracked t tr' u) : V.Tracked s (tr ++ tr') u where
  hooked := h'.hooked.trans h.hooked
  stalled := by rw [h'.stalled, h.stalled, anyStall_append, Bool.or_assoc]
  unhooked hs := by
    rw [anyStall_append, h.unhooked hs, h'.unhooked (h.hooked.trans hs), Bool.or_false]

lemma tracks : Composes V.Tracked where
  refl := Tracked.refl
  trans := Tracked.trans

lemma Kept.refl (s : σ) : V.Kept false s [] s where
  toTracked := Tracked.refl s
  faulted _ := by simp
  rest _ _ := rfl

lemma Kept.trans {b c : Bool} {s t u : σ} {tr tr' : List CpuAsked} (h : V.Kept b s tr t)
    (h' : V.Kept c t tr' u) : V.Kept (b || c) s (tr ++ tr') u where
  toTracked := h.toTracked.trans h'.toTracked
  faulted hs := by
    rw [h'.faulted (h.hooked.trans hs), h.faulted hs, anyBusError_append]
    cases b <;> cases c <;> simp [Bool.or_assoc]
  rest hs hf := by
    have hf' := h'.faulted (h.hooked.trans hs)
    rw [hf, eq_comm, Bool.or_eq_false_iff, Bool.or_eq_false_iff] at hf'
    rw [h'.rest (h.hooked.trans hs) hf, h.rest hs hf'.1.1]

lemma composes : Composes (V.Kept false) where
  refl := Kept.refl
  trans := Kept.trans

lemma kept_of_sameBut {s t : σ} (h : V.SameBut s t) : V.Kept false s [] t where
  hooked := h.hooked
  stalled := h.stalled.trans (Bool.or_false _).symm
  unhooked _ := rfl
  faulted _ := h.faulted.trans (by simp)
  rest _ _ := h.rest

/-! ### One access -/

lemma kept_done {s : σ} {tr : List CpuAsked} (hst : anyStall tr = false)
    (herr : anyBusError tr = false) : V.Kept false s tr s where
  hooked := rfl
  stalled := by rw [hst, Bool.or_false]
  unhooked _ := hst
  faulted _ := by rw [herr, Bool.or_false, Bool.or_false]
  rest _ _ := rfl

lemma kept_stall {s t : σ} {tr : List CpuAsked} (hh : V.hooked s = true) (hst : anyStall tr = true)
    (herr : anyBusError tr = false) (hh' : V.hooked t = V.hooked s) (hst' : V.stalled t = true)
    (hf : V.faulted t = V.faulted s) (hr : V.rest t = V.rest s) : V.Kept false s tr t where
  hooked := hh'
  stalled := by rw [hst, Bool.or_true, hst']
  unhooked h := absurd (hh.symm.trans h) (by decide)
  faulted _ := by rw [herr, Bool.or_false, Bool.or_false, hf]
  rest _ _ := hr

lemma kept_fault {b : Bool} {s t : σ} {tr : List CpuAsked} (hst : anyStall tr = false)
    (hh : V.hooked t = V.hooked s) (hst' : V.stalled t = V.stalled s) (hf : V.faulted t = true)
    (h : V.hooked s = true → (anyBusError tr || b) = true) : V.Kept b s tr t where
  hooked := hh
  stalled := by rw [hst, Bool.or_false, hst']
  unhooked _ := hst
  faulted hs := by rw [Bool.or_assoc, h hs, Bool.or_true, hf]
  rest _ hf' := absurd (hf.symm.trans hf') (by decide)

/-! ### Sequences -/

lemma tracked_of_kept {b : Bool} {x : Exec σ α} (h : Respects (V.Kept b) x) :
    Respects V.Tracked x :=
  fun s => Prog.Always.mono (fun _ _ hk => hk.toTracked) (h s)

lemma tracked_bind {x : Exec σ α} {f : α → Exec σ β} (hx : Respects V.Tracked x)
    (hf : ∀ a, Respects V.Tracked (f a)) : Respects V.Tracked (x >>= f) :=
  Respects.of_bind tracks hx hf

lemma tracked_modify {f : σ → σ} (h : ∀ s, V.hooked (f s) = V.hooked s)
    (h' : ∀ s, V.stalled (f s) = V.stalled s) :
    Respects V.Tracked (modify f : Exec σ Unit) :=
  Respects.of_modify fun s => ⟨h s, (h' s).trans (Bool.or_false _).symm, fun _ => rfl⟩

lemma kept_pure (a : α) : Respects (V.Kept false) (pure a : Exec σ α) := Respects.of_pure composes a

lemma kept_get : Respects (V.Kept false) (get : Exec σ σ) := Respects.of_get composes

lemma kept_modify {f : σ → σ} (h : ∀ s, V.SameBut s (f s)) :
    Respects (V.Kept false) (modify f : Exec σ Unit) :=
  Respects.of_modify fun s => kept_of_sameBut (h s)

lemma kept_bind_or {b c : Bool} {x : Exec σ α} {f : α → Exec σ β} (hx : Respects (V.Kept b) x)
    (hf : ∀ a, Respects (V.Kept c) (f a)) : Respects (V.Kept (b || c)) (x >>= f) := fun s => by
  rw [StateT.run_bind]
  refine Prog.Always.bind (hx s) fun tr out hout => ?_
  exact Prog.Always.mono (fun tr' _ h => hout.trans h) (hf out.1 out.2)

lemma kept_bind {c : Bool} {x : Exec σ α} {f : α → Exec σ β} (hx : Respects (V.Kept false) x)
    (hf : ∀ a, Respects (V.Kept c) (f a)) : Respects (V.Kept c) (x >>= f) := by
  have h := kept_bind_or hx hf
  rwa [Bool.false_or] at h

lemma kept_bind_left {b : Bool} {x : Exec σ α} {f : α → Exec σ β} (hx : Respects (V.Kept b) x)
    (hf : ∀ a, Respects (V.Kept false) (f a)) : Respects (V.Kept b) (x >>= f) := by
  have h := kept_bind_or hx hf
  rwa [Bool.or_false] at h

end CoreView

end RpcEmu
