import RpcEmu.Lib.Runs
import RpcEmu.Lib.Switches
import Mathlib.Data.List.Perm.Basic
import Mathlib.Data.List.Nodup

/-!
# The keys the host holds down

`held_keys.c`, and the front end's calls of it in `main_frame.cpp`.  A table has one entry for each
physical key that is down, with the scancode it went down as; the guest is told of a scancode when the
first key with it goes down and when the last one comes up.

**The table** is a list with room for `cap` entries, which has each physical key at most once.  The
emulator's has room for `HELD_KEYS_MAX`, which is 64.
-/

namespace RpcEmu.Gui

open Switches

/-- `HeldKey`. -/
structure HeldKey where
  keyId : UInt32
  scanCode : UInt32
  deriving DecidableEq, Repr

/-- `HeldKeys`. -/
structure HeldKeys (cap : Nat) where
  keys : List HeldKey
  fits : keys.length ≤ cap
  distinct : (keys.map HeldKey.keyId).Nodup

/-- `find_key`. -/
def findKey (keys : List HeldKey) (keyId : UInt32) : Option Nat :=
  keys.findIdx? fun k => k.keyId == keyId

/-- `scancode_held_elsewhere`. -/
def scancodeHeldElsewhere (keys : List HeldKey) (scanCode : UInt32) (skip : Option Nat) : Bool :=
  keys.zipIdx.any fun k => some k.2 != skip && k.1.scanCode == scanCode

/-- The last entry takes the place of entry `i`. -/
def swapRemove (keys : List HeldKey) (i : Nat) : List HeldKey :=
  match keys.getLast? with
  | none => keys
  | some k => (keys.set i k).dropLast

/-! ## Entries -/

lemma findKey_some {keys : List HeldKey} {keyId : UInt32} {i : Nat}
    (h : findKey keys keyId = some i) : ∃ k, keys[i]? = some k ∧ k.keyId = keyId := by
  obtain ⟨hi, hk, -⟩ := List.findIdx?_eq_some_iff_getElem.mp h
  exact ⟨keys[i], List.getElem?_eq_getElem hi, by simpa using hk⟩

lemma findKey_lt {keys : List HeldKey} {keyId : UInt32} {i : Nat} (h : findKey keys keyId = some i) :
    i < keys.length := by
  obtain ⟨k, hk, -⟩ := findKey_some h
  exact (List.getElem?_eq_some_iff.mp hk).1

lemma findKey_none {keys : List HeldKey} {keyId : UInt32} (h : findKey keys keyId = none) :
    ∀ k ∈ keys, k.keyId ≠ keyId := by
  intro k hk
  simpa using List.findIdx?_eq_none_iff.mp h k hk

lemma heldElsewhere_iff {keys : List HeldKey} {scanCode : UInt32} {skip : Option Nat} :
    scancodeHeldElsewhere keys scanCode skip = true ↔
      ∃ i k, keys[i]? = some k ∧ some i ≠ skip ∧ k.scanCode = scanCode := by
  simp only [scancodeHeldElsewhere, List.any_eq_true, Prod.exists, List.mk_mem_zipIdx_iff_getElem?,
    Bool.and_eq_true, bne_iff_ne, beq_iff_eq]
  exact exists_comm

lemma swapRemove_perm {keys : List HeldKey} {i : Nat} (hi : i < keys.length) :
    (swapRemove keys i).Perm (keys.eraseIdx i) := by
  obtain ⟨front, last, rfl⟩ : ∃ front last, keys = front ++ [last] := by
    refine ⟨keys.dropLast, keys.getLast (List.ne_nil_of_length_pos (by omega)), ?_⟩
    rw [List.dropLast_append_getLast]
  have hswap : swapRemove (front ++ [last]) i = ((front ++ [last]).set i last).dropLast := by
    simp [swapRemove]
  rw [hswap]
  rcases Nat.lt_or_ge i front.length with hlt | hge
  · rw [List.set_append_left i last hlt, List.dropLast_concat, List.eraseIdx_append_of_lt_length hlt]
    refine (List.set_perm_cons_eraseIdx hlt last).trans ?_
    exact (List.perm_append_singleton last (front.eraseIdx i)).symm
  · have hlast : i = front.length := by
      simp only [List.length_append, List.length_singleton] at hi
      omega
    subst hlast
    rw [List.eraseIdx_append_of_length_le (le_refl _)]
    simp

lemma length_swapRemove_le (keys : List HeldKey) (i : Nat) :
    (swapRemove keys i).length ≤ keys.length := by
  unfold swapRemove
  split
  · exact le_refl _
  · simp

lemma nodup_swapRemove {keys : List HeldKey} {i : Nat} (hi : i < keys.length)
    (h : (keys.map HeldKey.keyId).Nodup) : ((swapRemove keys i).map HeldKey.keyId).Nodup := by
  have hperm := (swapRemove_perm hi).map HeldKey.keyId
  rw [hperm.nodup_iff]
  exact h.sublist ((List.eraseIdx_sublist keys i).map HeldKey.keyId)

lemma mem_swapRemove {keys : List HeldKey} {i : Nat} {k x : HeldKey}
    (h : (keys.map HeldKey.keyId).Nodup) (hk : keys[i]? = some k) :
    x ∈ swapRemove keys i ↔ x ∈ keys ∧ x.keyId ≠ k.keyId := by
  obtain ⟨hi, rfl⟩ := List.getElem?_eq_some_iff.mp hk
  rw [(swapRemove_perm hi).mem_iff, List.mem_eraseIdx_iff_getElem]
  constructor
  · rintro ⟨j, hj, hne, rfl⟩
    refine ⟨List.getElem_mem hj, ?_⟩
    intro heq
    have hj' : j < (keys.map HeldKey.keyId).length := by simpa using hj
    have hi' : i < (keys.map HeldKey.keyId).length := by simpa using hi
    have hmap : (keys.map HeldKey.keyId)[j] = (keys.map HeldKey.keyId)[i] := by simpa using heq
    exact hne ((h.getElem_inj_iff).mp hmap)
  · rintro ⟨hx, hne⟩
    obtain ⟨j, hj, rfl⟩ := List.getElem_of_mem hx
    refine ⟨j, hj, ?_, rfl⟩
    rintro rfl
    exact hne rfl

/-! ## The calls -/

section Calls

variable {cap : Nat} (held : HeldKeys cap)

def HeldKeys.add (k : HeldKey) (hroom : held.keys.length < cap)
    (hnew : findKey held.keys k.keyId = none) : HeldKeys cap where
  keys := held.keys ++ [k]
  fits := by
    rw [List.length_append, List.length_singleton]
    exact hroom
  distinct := by
    have hfresh := findKey_none hnew
    rw [List.map_append, List.map_singleton, List.nodup_append_comm]
    simp only [List.singleton_append, List.nodup_cons, List.mem_map, not_exists, not_and]
    exact ⟨hfresh, held.distinct⟩

def HeldKeys.takeOut (i : Nat) (hi : i < held.keys.length) : HeldKeys cap where
  keys := swapRemove held.keys i
  fits := (length_swapRemove_le _ i).trans held.fits
  distinct := nodup_swapRemove hi held.distinct

def HeldKeys.none : HeldKeys cap := ⟨[], Nat.zero_le _, List.nodup_nil⟩

/-- `held_keys_press`: whether the guest is to be told. -/
def heldKeysPress (keyId scanCode : UInt32) : Bool × HeldKeys cap :=
  if hnew : findKey held.keys keyId = none then
    if hroom : held.keys.length < cap then
      (!scancodeHeldElsewhere held.keys scanCode .none, held.add ⟨keyId, scanCode⟩ hroom hnew)
    else (false, held)
  else (false, held)

/-- `held_keys_release`: whether the guest is to be told, the scancode if the key was down, and the
table. -/
def heldKeysRelease (keyId : UInt32) : Bool × Option UInt32 × HeldKeys cap :=
  match h : findKey held.keys keyId with
  | .none => (false, .none, held)
  | some i =>
    have hi := findKey_lt h
    (!scancodeHeldElsewhere held.keys held.keys[i].scanCode (some i), some held.keys[i].scanCode,
      held.takeOut i hi)

/-- The loop of `held_keys_release_all`; `out` is what has been written, of at most `max`. -/
def releaseAllLoop (max : Nat) : List HeldKey → List UInt32 → List UInt32
  | [], out => out
  | k :: ks, out =>
    if k.scanCode ∈ out then releaseAllLoop max ks out
    else if max ≤ out.length then out
    else releaseAllLoop max ks (out ++ [k.scanCode])

/-- `held_keys_release_all`. -/
def heldKeysReleaseAll (max : Nat) : List UInt32 × HeldKeys cap :=
  (releaseAllLoop max held.keys [], HeldKeys.none)

inductive Call
  | press (keyId scanCode : UInt32)
  | release (keyId : UInt32)
  | releaseAll
  deriving DecidableEq

/-- `NativeKeyPress`, `NativeKeyRelease` and `ReleaseHeldKeys`: what is sent to the guest, and the
table.  The array given to `held_keys_release_all` is as long as the table. -/
def call : Call → List (Msg UInt32) × HeldKeys cap
  | .press keyId scanCode =>
    let (tell, held') := heldKeysPress held keyId scanCode
    (if tell then [.press scanCode] else [], held')
  | .release keyId =>
    let (tell, scanCode, held') := heldKeysRelease held keyId
    (if tell then [.release (scanCode.getD 0)] else [], held')
  | .releaseAll =>
    let (scanCodes, held') := heldKeysReleaseAll held cap
    (scanCodes.map .release, held')

def next (held : HeldKeys cap) (c : Call) : HeldKeys cap := (call held c).2

def sent : HeldKeys cap → List Call → List (Msg UInt32)
  | _, [] => []
  | held, c :: cs => (call held c).1 ++ sent (next held c) cs

/-- The scancodes that are down. -/
def recorded : Set UInt32 := {scanCode | ∃ k ∈ held.keys, k.scanCode = scanCode}

/-- The key is among those held. -/
def Recorded (keyId : UInt32) : Prop := ∃ k ∈ held.keys, k.keyId = keyId

end Calls

/-! ## What a call tells the guest -/

section Told

variable {cap : Nat} {held : HeldKeys cap}

lemma mem_recorded {scanCode : UInt32} :
    scanCode ∈ recorded held ↔ ∃ k ∈ held.keys, k.scanCode = scanCode := Iff.rfl

lemma findKey_eq_none_iff {keyId : UInt32} :
    findKey held.keys keyId = none ↔ ¬ Recorded held keyId := by
  constructor
  · rintro h ⟨k, hk, hid⟩
    exact findKey_none h k hk hid
  · intro h
    cases hfind : findKey held.keys keyId with
    | none => rfl
    | some i =>
      obtain ⟨k, hk, hid⟩ := findKey_some hfind
      exact absurd ⟨k, List.mem_of_getElem? hk, hid⟩ h

lemma heldElsewhere_none_iff {scanCode : UInt32} :
    scancodeHeldElsewhere held.keys scanCode none = true ↔ scanCode ∈ recorded held := by
  rw [heldElsewhere_iff, mem_recorded]
  constructor
  · rintro ⟨i, k, hk, -, hcode⟩
    exact ⟨k, List.mem_of_getElem? hk, hcode⟩
  · rintro ⟨k, hk, hcode⟩
    obtain ⟨i, hi⟩ := List.mem_iff_getElem?.mp hk
    exact ⟨i, k, hi, by simp, hcode⟩

lemma heldElsewhere_some_iff {i : Nat} {k : HeldKey} (hk : held.keys[i]? = some k)
    {scanCode : UInt32} :
    scancodeHeldElsewhere held.keys scanCode (some i) = true ↔
      ∃ x ∈ swapRemove held.keys i, x.scanCode = scanCode := by
  rw [heldElsewhere_iff]
  constructor
  · rintro ⟨j, x, hx, hne, hcode⟩
    obtain ⟨hi, -⟩ := List.getElem?_eq_some_iff.mp hk
    refine ⟨x, ?_, hcode⟩
    rw [(swapRemove_perm hi).mem_iff, List.mem_eraseIdx_iff_getElem?]
    exact ⟨j, by simpa using hne, hx⟩
  · rintro ⟨x, hx, hcode⟩
    obtain ⟨hi, -⟩ := List.getElem?_eq_some_iff.mp hk
    rw [(swapRemove_perm hi).mem_iff, List.mem_eraseIdx_iff_getElem?] at hx
    obtain ⟨j, hne, hj⟩ := hx
    exact ⟨j, x, hj, by simpa using hne, hcode⟩

lemma heldKeysPress_refused {keyId scanCode : UInt32}
    (h : Recorded held keyId ∨ cap ≤ held.keys.length) :
    heldKeysPress held keyId scanCode = (false, held) := by
  unfold heldKeysPress
  split
  · rename_i hnew
    have hfull : ¬ held.keys.length < cap := by
      rcases h with h | h
      · exact absurd h (findKey_eq_none_iff.mp hnew)
      · omega
    rw [dif_neg hfull]
  · rfl

lemma heldKeysRelease_unknown {keyId : UInt32} (h : ¬ Recorded held keyId) :
    heldKeysRelease held keyId = (false, none, held) := by
  have hnone := findKey_eq_none_iff.mpr h
  unfold heldKeysRelease
  split
  · rfl
  · rename_i i hsome
    rw [hnone] at hsome
    cases hsome

lemma heldKeysRelease_known {keyId : UInt32} {i : Nat} (h : findKey held.keys keyId = some i)
    (hi : i < held.keys.length) :
    heldKeysRelease held keyId =
      (!scancodeHeldElsewhere held.keys held.keys[i].scanCode (some i), some held.keys[i].scanCode,
        held.takeOut i hi) := by
  unfold heldKeysRelease
  split
  · rename_i hnone
    rw [h] at hnone
    cases hnone
  · rename_i j hj
    obtain rfl : i = j := Option.some.inj (h.symm.trans hj)
    rfl

lemma told_press (keyId scanCode : UInt32) :
    Told (recorded held) (call held (.press keyId scanCode)).1
      (recorded (next held (.press keyId scanCode))) := by
  simp only [next, call, heldKeysPress]
  split
  · split
    · rename_i hnew hroom
      have hafter : recorded (held.add ⟨keyId, scanCode⟩ hroom hnew) =
          insert scanCode (recorded held) := by
        ext x
        simp only [mem_recorded, HeldKeys.add, List.mem_append, List.mem_singleton, or_and_right,
          exists_or, exists_eq_left, Set.mem_insert_iff]
        rw [or_comm, eq_comm]
      rw [hafter]
      cases helse : scancodeHeldElsewhere held.keys scanCode none with
      | true =>
        have hmem := heldElsewhere_none_iff.mp helse
        simpa [Set.insert_eq_of_mem hmem] using Told.refl (recorded held)
      | false =>
        have hmem : scanCode ∉ recorded held := by
          rw [← heldElsewhere_none_iff, helse]
          simp
        simpa using Told.press hmem
    · exact Told.refl _
  · exact Told.refl _

lemma told_release (keyId : UInt32) :
    Told (recorded held) (call held (.release keyId)).1
      (recorded (next held (.release keyId))) := by
  by_cases hrec : Recorded held keyId
  · obtain ⟨i, hfind⟩ := Option.ne_none_iff_exists'.mp (mt findKey_eq_none_iff.mp (not_not.mpr hrec))
    have hi := findKey_lt hfind
    simp only [next, call, heldKeysRelease_known hfind hi]
    have hk : held.keys[i]? = some held.keys[i] := List.getElem?_eq_getElem hi
    have hself : held.keys[i].scanCode ∈ recorded held := ⟨_, List.getElem_mem hi, rfl⟩
    have hafter : ∀ x, x ∈ recorded (held.takeOut i hi) ↔
        ∃ k ∈ swapRemove held.keys i, k.scanCode = x := fun x => Iff.rfl
    have hbefore : ∀ x, x ∈ recorded held ↔
        x = held.keys[i].scanCode ∨ x ∈ recorded (held.takeOut i hi) := by
      intro x
      rw [mem_recorded, hafter]
      simp only [mem_swapRemove held.distinct hk]
      constructor
      · rintro ⟨k, hkmem, rfl⟩
        by_cases hid : k.keyId = held.keys[i].keyId
        · left
          rw [List.inj_on_of_nodup_map held.distinct hkmem (List.getElem_mem hi) hid]
        · exact Or.inr ⟨k, ⟨hkmem, hid⟩, rfl⟩
      · rintro (rfl | ⟨k, ⟨hkmem, -⟩, hcode⟩)
        · exact hself
        · exact ⟨k, hkmem, hcode⟩
    cases helse : scancodeHeldElsewhere held.keys held.keys[i].scanCode (some i) with
    | true =>
      have hmem := (hafter _).mpr ((heldElsewhere_some_iff hk).mp helse)
      have hsame : recorded (held.takeOut i hi) = recorded held := by
        ext x
        rw [hbefore]
        constructor
        · exact Or.inr
        · rintro (rfl | hx)
          · exact hmem
          · exact hx
      simpa [hsame] using Told.refl (recorded held)
    | false =>
      have hnot : held.keys[i].scanCode ∉ recorded (held.takeOut i hi) := by
        rw [hafter, ← heldElsewhere_some_iff hk, helse]
        simp
      have hless : recorded (held.takeOut i hi) = recorded held \ {held.keys[i].scanCode} := by
        ext x
        rw [Set.mem_sdiff, hbefore, Set.mem_singleton_iff]
        constructor
        · intro hx
          refine ⟨Or.inr hx, ?_⟩
          rintro rfl
          exact hnot hx
        · rintro ⟨hx, hne⟩
          exact hx.resolve_left hne
      rw [hless]
      simpa using Told.release hself
  · simp only [next, call, heldKeysRelease_unknown hrec]
    exact Told.refl _

lemma releaseAllLoop_spec {max : Nat} (ks : List HeldKey) (out : List UInt32)
    (hroom : out.length + ks.length ≤ max) (hout : out.Nodup) :
    (releaseAllLoop max ks out).Nodup ∧
      ∀ x, x ∈ releaseAllLoop max ks out ↔ x ∈ out ∨ ∃ k ∈ ks, k.scanCode = x := by
  induction ks generalizing out with
  | nil => simp [releaseAllLoop, hout]
  | cons k ks ih =>
    rw [List.length_cons] at hroom
    by_cases hseen : k.scanCode ∈ out
    · obtain ⟨hnodup, hmem⟩ := ih out (by omega) hout
      rw [releaseAllLoop, if_pos hseen]
      refine ⟨hnodup, ?_⟩
      intro x
      rw [hmem]
      simp only [List.mem_cons, exists_eq_or_imp]
      constructor
      · rintro (hx | hx)
        · exact Or.inl hx
        · exact Or.inr (Or.inr hx)
      · rintro (hx | rfl | hx)
        · exact Or.inl hx
        · exact Or.inl hseen
        · exact Or.inr hx
    · have hnew : (out ++ [k.scanCode]).Nodup := by
        rw [List.nodup_append_comm]
        simpa using ⟨hseen, hout⟩
      obtain ⟨hnodup, hmem⟩ := ih (out ++ [k.scanCode]) (by simp; omega) hnew
      rw [releaseAllLoop, if_neg hseen, if_neg (by omega)]
      refine ⟨hnodup, ?_⟩
      intro x
      rw [hmem]
      simp only [List.mem_append, List.mem_cons, List.not_mem_nil, or_false, exists_eq_or_imp,
        or_assoc, eq_comm (a := x)]

lemma recorded_none : recorded (HeldKeys.none : HeldKeys cap) = ∅ := by
  ext x
  simp [mem_recorded, HeldKeys.none]

lemma told_releaseAll :
    Told (recorded held) (call held .releaseAll).1 (recorded (next held .releaseAll)) := by
  obtain ⟨hnodup, hmem⟩ := releaseAllLoop_spec held.keys [] (by simpa using held.fits) List.nodup_nil
  have hdown : ∀ x ∈ releaseAllLoop cap held.keys [], x ∈ recorded held := by
    intro x hx
    exact ((hmem x).mp hx).resolve_left (by simp)
  have hnothing : {x ∈ recorded held | x ∉ releaseAllLoop cap held.keys []} =
      recorded (next held .releaseAll) := by
    show _ = recorded (HeldKeys.none : HeldKeys cap)
    rw [recorded_none]
    ext x
    simp only [Set.mem_ofPred_eq, Set.mem_empty_iff_false, iff_false, not_and, not_not]
    intro hx
    exact (hmem x).mpr (Or.inr hx)
  rw [← hnothing]
  exact Told.releases hnodup hdown

/-- **Every call tells the guest what becomes of the recorded scancodes.** -/
theorem told_call (c : Call) :
    Told (recorded held) (call held c).1 (recorded (next held c)) := by
  cases c with
  | press keyId scanCode => exact told_press keyId scanCode
  | release keyId => exact told_release keyId
  | releaseAll => exact told_releaseAll

theorem told_run (cs : List Call) :
    Told (recorded held) (sent held cs) (recorded (Runs.exec next held cs)) := by
  induction cs generalizing held with
  | nil => exact Told.refl _
  | cons c cs ih => exact told_call c |>.append ih

end Told

/-! ## One key and another -/

section Keys

variable {cap : Nat} {held : HeldKeys cap} {keyId : UInt32}

lemma recorded_press {scanCode other : UInt32} (h : Recorded (next held (.press keyId scanCode)) other) :
    Recorded held other ∨ other = keyId := by
  simp only [next, call, heldKeysPress] at h
  split at h
  · split at h
    · obtain ⟨k, hk, rfl⟩ := h
      simp only [HeldKeys.add, List.mem_append, List.mem_singleton] at hk
      rcases hk with hk | rfl
      · exact Or.inl ⟨k, hk, rfl⟩
      · exact Or.inr rfl
    · exact Or.inl h
  · exact Or.inl h

lemma mem_release {k : HeldKey} :
    k ∈ (next held (.release keyId)).keys ↔ k ∈ held.keys ∧ k.keyId ≠ keyId := by
  cases hfind : findKey held.keys keyId with
  | none =>
    simp only [next, call, heldKeysRelease_unknown (findKey_eq_none_iff.mp hfind)]
    exact ⟨fun hk => ⟨hk, findKey_none hfind k hk⟩, And.left⟩
  | some i =>
    simp only [next, call, heldKeysRelease_known hfind (findKey_lt hfind)]
    obtain ⟨x, hx, rfl⟩ := findKey_some hfind
    exact mem_swapRemove held.distinct hx

lemma own_of_release_sent {scanCode : UInt32} {k : HeldKey}
    (hsent : Msg.release scanCode ∈ (call held (.release keyId)).1) (hk : k ∈ held.keys)
    (hcode : k.scanCode = scanCode) : k.keyId = keyId := by
  by_contra hne
  have htold : Told (recorded held) (call held (.release keyId)).1 (recorded (next held (.release keyId))) :=
    told_call (.release keyId)
  have hstays : scanCode ∈ recorded (next held (.release keyId)) :=
    ⟨k, mem_release.mpr ⟨hk, hne⟩, hcode⟩
  simp only [call] at hsent htold
  split at hsent
  · rename_i htell
    simp only [List.mem_singleton, Msg.release.injEq] at hsent
    rw [if_pos htell, ← hsent] at htold
    rw [← htold.2] at hstays
    exact hstays.2 rfl
  · cases hsent

lemma not_recorded_run (cs : List Call) (h : ¬ Recorded held keyId)
    (hcs : ∀ scanCode, Call.press keyId scanCode ∉ cs) :
    ¬ Recorded (Runs.exec next held cs) keyId := by
  induction cs generalizing held with
  | nil => exact h
  | cons c cs ih =>
    refine ih ?_ (fun scanCode hc => hcs scanCode (by simp [hc]))
    cases c with
    | press other scanCode =>
      intro hrec
      rcases recorded_press hrec with hrec | rfl
      · exact h hrec
      · exact hcs scanCode (by simp)
    | release other =>
      rintro ⟨k, hk, hid⟩
      exact h ⟨k, (mem_release.mp hk).1, hid⟩
    | releaseAll =>
      rintro ⟨k, hk, -⟩
      cases hk

end Keys

/-- The table the emulator starts with, and what has been sent when the calls `cs` have been made. -/
def heldAfter (cap : Nat) (cs : List Call) : HeldKeys cap := Runs.exec next HeldKeys.none cs

def sentBy (cap : Nat) (cs : List Call) : List (Msg UInt32) := sent (HeldKeys.none : HeldKeys cap) cs

/-- **The record mirrors the guest's keyboard.**  After every sequence of calls on a table with room
for any number of keys:

* the scancodes the guest has been told are down are those recorded;
* the messages about each scancode are a press, a release, a press and so on;
* a release leaves the entries of other keys, and one that is sent is for a scancode of no other key;
* the release of a key that was refused for want of room, and has not been pressed again, sends
  nothing and changes nothing;
* after a release of all keys no scancode is down. -/
theorem record_mirrors_keyboard (cap : Nat) (cs : List Call) :
    believed ∅ (sentBy cap cs) = recorded (heldAfter cap cs) ∧
      (∀ scanCode, Alternates false (about scanCode (sentBy cap cs))) ∧
      (∀ keyId, (∀ k ∈ (heldAfter cap cs).keys, k.keyId ≠ keyId →
          k ∈ (next (heldAfter cap cs) (.release keyId)).keys) ∧
        ∀ scanCode, Msg.release scanCode ∈ (call (heldAfter cap cs) (.release keyId)).1 →
          ∀ k ∈ (heldAfter cap cs).keys, k.scanCode = scanCode → k.keyId = keyId) ∧
      (∀ keyId scanCode later, ¬ Recorded (heldAfter cap cs) keyId →
        cap ≤ (heldAfter cap cs).keys.length → (∀ code, Call.press keyId code ∉ later) →
        call (heldAfter cap (cs ++ .press keyId scanCode :: later)) (.release keyId) =
          ([], heldAfter cap (cs ++ .press keyId scanCode :: later))) ∧
      believed ∅ (sentBy cap (cs ++ [.releaseAll])) = ∅ := by
  have htold : ∀ cs, Told ∅ (sentBy cap cs) (recorded (heldAfter cap cs)) := by
    intro cs
    have hnone : recorded (HeldKeys.none : HeldKeys cap) = ∅ := recorded_none
    rw [← hnone]
    exact told_run cs
  refine ⟨(htold cs).believed, ?_, ?_, ?_, ?_⟩
  · intro scanCode
    exact (htold cs).alternates scanCode false (by simp)
  · intro keyId
    refine ⟨fun k hk hne => mem_release.mpr ⟨hk, hne⟩, ?_⟩
    intro scanCode hsent k hk hcode
    exact own_of_release_sent hsent hk hcode
  · intro keyId scanCode later hnew hfull hlater
    have hsplit : heldAfter cap (cs ++ .press keyId scanCode :: later) =
        Runs.exec next (heldAfter cap cs) later := by
      rw [heldAfter, Runs.exec_append, Runs.exec_cons, ← heldAfter, next, call,
        heldKeysPress_refused (Or.inr hfull)]
    rw [hsplit]
    have hstill := not_recorded_run later hnew hlater
    simp only [call, heldKeysRelease_unknown hstill]
    rfl
  · have hlast : heldAfter cap (cs ++ [.releaseAll]) = HeldKeys.none := by
      rw [heldAfter, Runs.exec_append]
      rfl
    rw [(htold _).believed, hlast, recorded_none]

end RpcEmu.Gui
