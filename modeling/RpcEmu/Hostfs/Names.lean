import RpcEmu.Lib.Hex
import RpcEmu.Lib.SplitLast

/-!
# HostFS names, in RISC OS form and in host form

The names of `hostfs.c`: a RISC OS name is Latin-1, a byte a character, and is written to the host with a few
characters swapped and those above `0x7f` as the two bytes of their UTF-8.

* `hostName` is the way to the host where there is room; `nameHostToRiscos_hostName`: a leafname comes back.
* A name is the bytes of a C string.
-/

namespace RpcEmu.Hostfs

open Hex SplitLast

abbrev Name := List UInt8

/-! ## Out to the host -/

/-- `riscos_path_to_host`, with the bytes there is room for before the terminator. -/
def riscosPathToHost (root : Name) : Name → Nat → Name
  | [], _ => []
  | _ :: _, 0 => []
  | ch :: path, room + 1 =>
    match ch with
    | 0x24 => root.take (room + 1) ++ riscosPathToHost root path (room + 1 - root.length) -- '$'
    | 0x2e => 0x2f :: riscosPathToHost root path room -- '.' to '/'
    | 0x2f => 0x2e :: riscosPathToHost root path room -- '/' to '.'
    | 0x3f => 0x23 :: riscosPathToHost root path room -- '?' to '#'
    | 0x3c => 0x24 :: riscosPathToHost root path room -- '<' to '$'
    | 0x3e => 0x5e :: riscosPathToHost root path room -- '>' to '^'
    | ch =>
      if 0x80 ≤ ch then
        -- no room for the pair: the character is left out, and the rest goes on
        if room = 0 then riscosPathToHost root path (room + 1)
        else ((0xc0 : UInt8) ||| (ch >>> 6)) :: ((0x80 : UInt8) ||| (ch &&& 0x3f)) :: riscosPathToHost root path (room - 1)
      else ch :: riscosPathToHost root path room

/-- What a character other than `$` is on the host. -/
def hostChar : UInt8 → Name
  | 0x2e => [0x2f]
  | 0x2f => [0x2e]
  | 0x3f => [0x23]
  | 0x3c => [0x24]
  | 0x3e => [0x5e]
  | ch => if 0x80 ≤ ch then [(0xc0 : UInt8) ||| (ch >>> 6), (0x80 : UInt8) ||| (ch &&& 0x3f)] else [ch]

def hostName (leaf : Name) : Name := leaf.flatMap hostChar

/-! ## Back from it -/

def riscosChar : UInt8 → UInt8
  | 0x2e => 0x2f
  | 0x2f => 0x2e
  | 0x20 => 0xa0 -- a hard space
  | 0x23 => 0x3f
  | 0x24 => 0x3c
  | 0x5e => 0x3e
  | ch => ch

/-- `name_host_to_riscos`, of the part of the name that is to be converted. -/
def nameHostToRiscos : Name → Name
  | ch :: next :: name =>
    if (ch == 0xc2 || ch == 0xc3) && next &&& 0xc0 == 0x80 then
      (((ch &&& 0x1f) <<< 6) ||| (next &&& 0x3f)) :: nameHostToRiscos name
    else riscosChar ch :: nameHostToRiscos (next :: name)
  | [ch] => [riscosChar ch]
  | [] => []

/-- What a RISC OS leafname is made of: no control, space or `.`, and none of `$ ^ @ : & % #`. -/
def isLeafChar (ch : UInt8) : Bool :=
  0x20 < ch && ch != 0x7f && ch != 0x2e && ch != 0x24 && ch != 0x5e && ch != 0x40 && ch != 0x3a && ch != 0x26 &&
    ch != 0x25 && ch != 0x23

/-- Every character may stand in a leafname. -/
def IsLeafname (leaf : Name) : Prop := ∀ ch ∈ leaf, isLeafChar ch = true

lemma isLeafname_of_all {leaf : Name} (h : leaf.all isLeafChar = true) : IsLeafname leaf := List.all_eq_true.mp h

/-! ## One character -/

section Char

lemma forall_byte {P : UInt8 → Prop} (h : ∀ n : Fin 256, P (UInt8.ofNat n)) (ch : UInt8) : P ch := by
  simpa using h ⟨ch.toNat, ch.toNat_lt⟩

def swaps : List (UInt8 × UInt8) := [(0x2e, 0x2f), (0x2f, 0x2e), (0x3f, 0x23), (0x3c, 0x24), (0x3e, 0x5e)]

instance decidableForallSwaps (P : UInt8 × UInt8 → Prop) [DecidablePred P] : Decidable (∀ p ∈ swaps, P p) :=
  List.decidableBAll P swaps

lemma right_le_or (x y : UInt8) : y ≤ x ||| y := by
  rw [UInt8.le_iff_toNat_le, UInt8.toNat_or]
  exact Nat.right_le_or

lemma hostChar_high {ch : UInt8} (hch : 0x80 ≤ ch) : ∃ b b', hostChar ch = [b, b'] ∧ 0x80 ≤ b ∧ 0x80 ≤ b' := by
  unfold hostChar
  split
  case h_6 =>
    refine ⟨_, _, if_pos hch, ?_, ?_⟩
    · rw [UInt8.or_comm]
      exact UInt8.le_trans (by decide) (right_le_or _ 0xc0)
    · rw [UInt8.or_comm]
      exact right_le_or _ 0x80
  all_goals exact absurd hch (by decide)

lemma forall_hostChar {P : UInt8 → Name → Prop} (hswap : ∀ p ∈ swaps, P p.1 [p.2])
    (hplain : ∀ ch, ch < 0x80 → (∀ p ∈ swaps, ch ≠ p.1) → P ch [ch])
    (hpair : ∀ ch b b', 0x80 ≤ ch → 0x80 ≤ b → 0x80 ≤ b' → P ch [b, b']) (ch : UInt8) : P ch (hostChar ch) := by
  by_cases hch : 0x80 ≤ ch
  · obtain ⟨b, b', hcode, hb, hb'⟩ := hostChar_high hch
    rw [hcode]
    exact hpair ch b b' hch hb hb'
  · by_cases hmem : ∃ p ∈ swaps, ch = p.1
    · obtain ⟨p, hp, rfl⟩ := hmem
      have hcode : ∀ p ∈ swaps, hostChar p.1 = [p.2] := by decide
      rw [hcode p hp]
      exact hswap p hp
    · push Not at hmem
      have hcode : hostChar ch = [ch] := by
        unfold hostChar
        split
        case h_6 => exact if_neg hch
        all_goals simp [swaps] at hmem
      rw [hcode]
      exact hplain ch (UInt8.not_le.mp hch) hmem

lemma fixes_hostChar : Fixes hostChar := by
  constructor
  · refine forall_hostChar (P := fun ch code => isNumeral ch = true → code = [ch]) (by decide) (fun _ _ _ _ => rfl) ?_
    intro ch b b' hch _ _ hnumeral
    rw [isNumeral_high hch] at hnumeral
    cases hnumeral
  · refine forall_hostChar (P := fun ch code => isNumeral ch = false → ∃ h t, code = h :: t ∧ isNumeral h = false) ?_
      (fun ch _ _ hother => ⟨ch, [], rfl, hother⟩) ?_
    · intro p hp _
      have hother : ∀ p ∈ swaps, isNumeral p.2 = false := by decide
      exact ⟨p.2, [], rfl, hother p hp⟩
    · intro ch b b' _ hb _ _
      exact ⟨b, [b'], rfl, isNumeral_high hb⟩

lemma notMem_hostChar {c d : UInt8} (hc : c < 0x80) (hswap : ∀ p ∈ swaps, p.1 ≠ d → p.2 ≠ c)
    (hplain : c = d ∨ ∃ p ∈ swaps, c = p.1) : ∀ ch, ch ≠ d → c ∉ hostChar ch := by
  refine forall_hostChar (P := fun ch code => ch ≠ d → c ∉ code) ?_ ?_ ?_
  · intro p hp hne hmem
    exact hswap p hp hne (List.mem_singleton.mp hmem).symm
  · intro ch _ hother hne hmem
    cases List.mem_singleton.mp hmem
    rcases hplain with rfl | ⟨p, hp, hsame⟩
    · exact hne rfl
    · exact hother p hp hsame
  · intro ch b b' _ hb hb' _ hmem
    rcases List.mem_pair.mp hmem with rfl | rfl
    · exact absurd hb (UInt8.not_le.mpr hc)
    · exact absurd hb' (UInt8.not_le.mpr hc)

lemma comma_hostChar : ∀ ch : UInt8, ch ≠ 0x2c → 0x2c ∉ hostChar ch :=
  notMem_hostChar (by decide) (by decide) (Or.inl rfl)

lemma dash_hostChar : ∀ ch : UInt8, ch ≠ 0x2d → 0x2d ∉ hostChar ch :=
  notMem_hostChar (by decide) (by decide) (Or.inl rfl)

lemma dot_hostChar : ∀ ch : UInt8, ch ≠ 0x2f → 0x2e ∉ hostChar ch :=
  notMem_hostChar (by decide) (by decide) (Or.inr ⟨(0x2e, 0x2f), by decide, rfl⟩)

lemma slash_hostChar : ∀ ch : UInt8, ch ≠ 0x2e → 0x2f ∉ hostChar ch :=
  notMem_hostChar (by decide) (by decide) (Or.inr ⟨(0x2f, 0x2e), by decide, rfl⟩)

lemma hostChar_ne_nil : ∀ ch : UInt8, hostChar ch ≠ [] :=
  forall_hostChar (P := fun _ code => code ≠ []) (fun _ _ => List.cons_ne_nil _ _) (fun _ _ _ => List.cons_ne_nil _ _)
    fun _ _ _ _ _ _ => List.cons_ne_nil _ _

lemma hostChar_back :
    ∀ ch : UInt8, isLeafChar ch = true →
      if ch < 0x80 then ∃ b ∈ (hostChar ch).head?, hostChar ch = [b] ∧ b ≠ 0xc2 ∧ b ≠ 0xc3 ∧ riscosChar b = ch
      else ∃ b ∈ (hostChar ch).head?, ∃ b' ∈ (hostChar ch)[1]?, hostChar ch = [b, b'] ∧
        ((b == 0xc2 || b == 0xc3) && b' &&& 0xc0 == 0x80) = true ∧ ((b &&& 0x1f) <<< 6) ||| (b' &&& 0x3f) = ch :=
  forall_byte (by decide +kernel)

end Char

/-! ## A whole name -/

section Name

variable {leaf : Name}

lemma IsLeafname.tail {ch : UInt8} (h : IsLeafname (ch :: leaf)) : IsLeafname leaf := fun b hb =>
  h b (List.mem_cons_of_mem ch hb)

lemma nameHostToRiscos_single {b : UInt8} (h : b ≠ 0xc2) (h' : b ≠ 0xc3) (name : Name) :
    nameHostToRiscos (b :: name) = riscosChar b :: nameHostToRiscos name := by
  cases name with
  | nil => rfl
  | cons next name => rw [nameHostToRiscos, if_neg (by simp [h, h'])]

/-- **A leafname comes back** from the host as it went. -/
theorem nameHostToRiscos_hostName (h : IsLeafname leaf) : nameHostToRiscos (hostName leaf) = leaf := by
  induction leaf with
  | nil => rfl
  | cons ch leaf ih =>
    have ih := ih h.tail
    have hback := hostChar_back ch (h ch List.mem_cons_self)
    unfold hostName at ih ⊢
    rw [List.flatMap_cons]
    split at hback
    · obtain ⟨b, -, hcode, hne, hne', hb⟩ := hback
      rw [hcode, List.singleton_append, nameHostToRiscos_single hne hne', hb, ih]
    · obtain ⟨b, -, b', -, hcode, hpair, hb⟩ := hback
      rw [hcode]
      show nameHostToRiscos (b :: b' :: leaf.flatMap hostChar) = _
      rw [nameHostToRiscos, if_pos hpair, hb, ih]

lemma riscosPathToHost_cons {root path : Name} {ch : UInt8} {room : Nat} (hch : ch ≠ 0x24)
    (hroom : (hostChar ch).length ≤ room) :
    riscosPathToHost root (ch :: path) room =
      hostChar ch ++ riscosPathToHost root path (room - (hostChar ch).length) := by
  obtain ⟨r, rfl⟩ : ∃ r, room = r + 1 :=
    Nat.exists_eq_add_one.mpr (Nat.lt_of_lt_of_le (List.length_pos_of_ne_nil (hostChar_ne_nil ch)) hroom)
  by_cases hswapped : ch = 0x2e ∨ ch = 0x2f ∨ ch = 0x3f ∨ ch = 0x3c ∨ ch = 0x3e
  · rcases hswapped with rfl | rfl | rfl | rfl | rfl <;> rfl
  · obtain ⟨hdot, hslash, hquery, hless, hgreater⟩ : ch ≠ 0x2e ∧ ch ≠ 0x2f ∧ ch ≠ 0x3f ∧ ch ≠ 0x3c ∧ ch ≠ 0x3e := by
      simpa only [not_or] using hswapped
    have hcode : hostChar ch =
        if 0x80 ≤ ch then [(0xc0 : UInt8) ||| (ch >>> 6), (0x80 : UInt8) ||| (ch &&& 0x3f)] else [ch] := by
      rw [hostChar] <;> assumption
    rw [hcode] at hroom ⊢
    rw [riscosPathToHost]
    · split at hroom
      next hhigh =>
        have hr : r ≠ 0 := by
          rintro rfl
          exact absurd hroom (by simp)
        rw [if_pos hhigh, if_pos hhigh, if_neg hr]
        rfl
      next hlow =>
        rw [if_neg hlow, if_neg hlow]
        rfl
    all_goals assumption

/-- **Where there is room** the name goes out whole. -/
theorem riscosPathToHost_eq {root : Name} {room : Nat} (h : IsLeafname leaf) (hroom : (hostName leaf).length ≤ room) :
    riscosPathToHost root leaf room = hostName leaf := by
  induction leaf generalizing room with
  | nil => rfl
  | cons ch leaf ih =>
    unfold hostName at hroom ih ⊢
    rw [List.flatMap_cons] at hroom ⊢
    rw [List.length_append] at hroom
    have hch : ch ≠ 0x24 := by
      rintro rfl
      exact absurd (h _ List.mem_cons_self) (by decide)
    rw [riscosPathToHost_cons hch (by omega), ih h.tail (by omega)]

/-! ## Where it is split -/

lemma splitLast_hostName {c d : UInt8} (hc : hostChar c = [d]) (hne : ∀ ch, ch ≠ c → d ∉ hostChar ch) (leaf : Name) :
    splitLast d (hostName leaf) = (splitLast c leaf).map fun p => (hostName p.1, hostName p.2) :=
  splitLast_flatMap hc fun ch _ hch => hne ch hch

lemma slash_hostName (h : IsLeafname leaf) : 0x2f ∉ hostName leaf := by
  rw [hostName, List.mem_flatMap]
  rintro ⟨ch, hch, hslash⟩
  refine slash_hostChar ch ?_ hslash
  rintro rfl
  exact absurd (h _ hch) (by decide)

end Name

end RpcEmu.Hostfs
