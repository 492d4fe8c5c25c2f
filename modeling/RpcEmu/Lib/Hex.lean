import Mathlib.Data.Nat.Digits.Lemmas

/-!
# Hexadecimal numerals

A text of bytes, as `printf` writes an unsigned number in base 16 and `scanf` reads one.

`scan_numeral`: what is written is read back.
-/

namespace Hex

/-- `isxdigit`, of ASCII. -/
def isDigit (b : UInt8) : Bool := 0x30 ≤ b && b ≤ 0x39 || 0x41 ≤ b && b ≤ 0x46 || 0x61 ≤ b && b ≤ 0x66

def digit (n : Nat) : UInt8 := if n < 10 then UInt8.ofNat (0x30 + n) else UInt8.ofNat (0x57 + n)

def digitValue (b : UInt8) : Nat :=
  if b ≤ 0x39 then b.toNat - 0x30 else if b ≤ 0x46 then b.toNat - 0x37 else b.toNat - 0x57

def value (s : List UInt8) : Nat := s.foldl (fun n b => n * 16 + digitValue b) 0

/-- `%x`. -/
def numeral (n : Nat) : List UInt8 := if n = 0 then [digit 0] else (Nat.digits 16 n).reverse.map digit

/-- `%0wx`. -/
def padded (w n : Nat) : List UInt8 := List.replicate (w - (numeral n).length) (digit 0) ++ numeral n

/-! ## What is written -/

variable {n k : Nat} {b : UInt8} {s t : List UInt8}

lemma isDigit_digit : ∀ n < 16, isDigit (digit n) = true := by decide

lemma digitValue_digit : ∀ n < 16, digitValue (digit n) = n := by decide

lemma isDigit_numeral (hb : b ∈ numeral n) : isDigit b = true := by
  unfold numeral at hb
  split at hb
  · rw [List.mem_singleton.mp hb]
    rfl
  · obtain ⟨d, hd, rfl⟩ := List.mem_map.mp hb
    exact isDigit_digit d (Nat.digits_lt_base (by omega) (List.mem_reverse.mp hd))

lemma isDigit_padded {w : Nat} (hb : b ∈ padded w n) : isDigit b = true := by
  rcases List.mem_append.mp hb with hzero | hdigit
  · rw [List.eq_of_mem_replicate hzero]
    rfl
  · exact isDigit_numeral hdigit

lemma numeral_ne_nil : numeral n ≠ [] := by
  unfold numeral
  split
  · exact List.cons_ne_nil _ _
  next hn => simpa [Nat.digits_ne_nil_iff_ne_zero] using hn

lemma length_numeral_le (hk : 0 < k) (hn : n < 16 ^ k) : (numeral n).length ≤ k := by
  unfold numeral
  split
  · exact hk
  · rw [List.length_map, List.length_reverse]
    exact (Nat.digits_length_le_iff (by omega) n).mpr hn

lemma length_padded (hk : 0 < k) (hn : n < 16 ^ k) : (padded k n).length = k := by
  have hle := length_numeral_le hk hn
  rw [padded, List.length_append, List.length_replicate]
  omega

lemma value_replicate_append (m : Nat) : value (List.replicate m (digit 0) ++ s) = value s := by
  induction m with
  | zero => rfl
  | succ m ih => exact ih

lemma value_digits {ds : List Nat} (hds : ∀ d ∈ ds, d < 16) : value (ds.reverse.map digit) = Nat.ofDigits 16 ds := by
  induction ds with
  | nil => rfl
  | cons d ds ih =>
    have ih := ih fun d' hd' => hds d' (List.mem_cons_of_mem d hd')
    unfold value at ih ⊢
    rw [List.reverse_cons, List.map_append, List.foldl_append, ih, Nat.ofDigits_cons]
    simp only [List.map_cons, List.map_nil, List.foldl_cons, List.foldl_nil,
      digitValue_digit d (hds d List.mem_cons_self)]
    omega

lemma value_numeral (n : Nat) : value (numeral n) = n := by
  unfold numeral
  split
  next hn => exact hn.symm
  next hn => rw [value_digits fun d hd => Nat.digits_lt_base (by omega) hd, Nat.ofDigits_digits]

lemma value_padded (w n : Nat) : value (padded w n) = n :=
  (value_replicate_append _).trans (value_numeral n)

/-! ## What is read -/

def leadingDigits : Nat → List UInt8 → List UInt8 × List UInt8
  | w + 1, b :: s => if isDigit b then ((b :: (leadingDigits w s).1), (leadingDigits w s).2) else ([], b :: s)
  | _, s => ([], s)

/-- The field without its `0x`: there have to be digits. -/
def scanDigits (w : Nat) (s : List UInt8) : Option (Nat × List UInt8) :=
  if (leadingDigits w s).1 = [] then none else some (value (leadingDigits w s).1, (leadingDigits w s).2)

/-- A `0x` in front of the digits, in a field with room for it. -/
def scanUnsigned (w : Nat) : List UInt8 → Option (Nat × List UInt8)
  | 0x30 :: x :: s => if 2 ≤ w && (x == 0x78 || x == 0x58) then scanDigits (w - 2) s else scanDigits w (0x30 :: x :: s)
  | s => scanDigits w s

/-- `%wx`, of a 32-bit number; a negative one is read as `strtoul` reads it. -/
def scan (w : Nat) : List UInt8 → Option (UInt32 × List UInt8)
  | 0x2d :: s => (scanUnsigned (w - 1) s).map fun p => (0 - UInt32.ofNat p.1, p.2)
  | 0x2b :: s => (scanUnsigned (w - 1) s).map fun p => (UInt32.ofNat p.1, p.2)
  | s => (scanUnsigned w s).map fun p => (UInt32.ofNat p.1, p.2)

lemma leadingDigits_append {w : Nat} (hs : ∀ b ∈ s, isDigit b = true) (hw : s.length ≤ w)
    (ht : ∀ b ∈ t.head?, isDigit b = false) : leadingDigits w (s ++ t) = (s, t) := by
  induction s generalizing w with
  | nil =>
    cases w with
    | zero => rfl
    | succ w =>
      cases t with
      | nil => rfl
      | cons b t =>
        show (if isDigit b then _ else _) = _
        rw [ht b rfl, if_neg Bool.false_ne_true]
  | cons b s ih =>
    obtain ⟨w, rfl⟩ : ∃ v, w = v + 1 := Nat.exists_eq_add_one.mpr (by simp only [List.length_cons] at hw; omega)
    have ih := ih (fun b' hb' => hs b' (List.mem_cons_of_mem b hb')) (Nat.le_of_succ_le_succ hw)
    rw [List.cons_append, leadingDigits, if_pos (hs b List.mem_cons_self), ih]

lemma scanUnsigned_of_not_hex {w : Nat} (h : ∀ x r, s = 0x30 :: x :: r → x ≠ 0x78 ∧ x ≠ 0x58) :
    scanUnsigned w s = scanDigits w s := by
  unfold scanUnsigned
  split
  next x r =>
    obtain ⟨hx, hX⟩ := h x r rfl
    rw [if_neg (by simp [hx, hX])]
  · rfl

lemma scan_of_no_sign {w : Nat} (h : ∀ x r, s = x :: r → x ≠ 0x2d ∧ x ≠ 0x2b) :
    scan w s = (scanUnsigned w s).map fun p => (UInt32.ofNat p.1, p.2) := by
  unfold scan
  split
  next r => exact absurd rfl (h 0x2d r rfl).1
  next r => exact absurd rfl (h 0x2b r rfl).2
  · rfl

/-- **Digits are read back** as the number they spell, up to where something else stands. -/
theorem scan_append {w : Nat} (hs : ∀ b ∈ s, isDigit b = true) (hne : s ≠ []) (hw : s.length ≤ w)
    (ht : ∀ b ∈ t.head?, isDigit b = false ∧ b ≠ 0x78 ∧ b ≠ 0x58) :
    scan w (s ++ t) = some (UInt32.ofNat (value s), t) := by
  obtain ⟨d, s, rfl⟩ := List.exists_cons_of_ne_nil hne
  have hdigit : ∀ x : UInt8, isDigit x = true → x ≠ 0x2d ∧ x ≠ 0x2b ∧ x ≠ 0x78 ∧ x ≠ 0x58 := by
    intro x hx
    refine ⟨?_, ?_, ?_, ?_⟩ <;> rintro rfl <;> cases hx
  have hsign : ∀ x r, d :: s ++ t = x :: r → x ≠ 0x2d ∧ x ≠ 0x2b := by
    rintro x r ⟨⟩
    obtain ⟨hminus, hplus, -⟩ := hdigit _ (hs _ List.mem_cons_self)
    exact ⟨hminus, hplus⟩
  have hunmarked : ∀ x r, d :: s ++ t = 0x30 :: x :: r → x ≠ 0x78 ∧ x ≠ 0x58 := by
    intro x r h
    cases s with
    | nil =>
      have ht' : t = x :: r := (List.cons.inj h).2
      exact (ht x (by rw [ht']; rfl)).2
    | cons e s =>
      obtain ⟨-, h⟩ := List.cons.inj h
      obtain ⟨rfl, -⟩ := List.cons.inj h
      exact (hdigit _ (hs _ (by simp))).2.2
  have hdigits := leadingDigits_append hs hw fun b hb => (ht b hb).1
  rw [scan_of_no_sign hsign, scanUnsigned_of_not_hex hunmarked, scanDigits, hdigits, if_neg (List.cons_ne_nil d s)]
  rfl

def isNumeral (b : UInt8) : Bool := isDigit b || b == 0x78 || b == 0x58 || b == 0x2d || b == 0x2b

lemma isNumeral_high (hb : 0x80 ≤ b) : isNumeral b = false := by
  have hlt : 128 ≤ b.toNat := hb
  simp only [isNumeral, isDigit, UInt8.le_iff_toNat_le, ← UInt8.toNat_inj, Bool.or_eq_false_iff, Bool.and_eq_false_iff,
    decide_eq_false_iff_not, beq_eq_false_iff_ne, ne_eq, UInt8.reduceToNat]
  omega

lemma isDigit_high (hb : 0x80 ≤ b) : isDigit b = false := by
  have hnumeral := isNumeral_high hb
  simp only [isNumeral, Bool.or_eq_false_iff] at hnumeral
  exact hnumeral.1.1.1.1

/-! ## Of an encoded text -/

/-- An encoding that leaves the bytes of a numeral alone, and puts none of them in front of another byte. -/
structure Fixes (f : UInt8 → List UInt8) : Prop where
  numeral : ∀ b, isNumeral b = true → f b = [b]
  other : ∀ b, isNumeral b = false → ∃ h t, f b = h :: t ∧ isNumeral h = false

section Encoded

variable {f : UInt8 → List UInt8} (hf : Fixes f)

lemma isNumeral_of_isDigit (h : isDigit b = true) : isNumeral b = true := by simp [isNumeral, h]

include hf

lemma leadingDigits_flatMap (w : Nat) (s : List UInt8) :
    leadingDigits w (s.flatMap f) = ((leadingDigits w s).1, (leadingDigits w s).2.flatMap f) := by
  induction s generalizing w with
  | nil => cases w <;> rfl
  | cons b s ih =>
    cases w with
    | zero => rfl
    | succ w =>
      rw [List.flatMap_cons]
      cases hb : isNumeral b with
      | true =>
        rw [hf.numeral b hb, List.singleton_append, leadingDigits, leadingDigits, ih]
        split
        · rfl
        · rw [List.flatMap_cons, hf.numeral b hb]
          rfl
      | false =>
        obtain ⟨h, t, hcode, hh⟩ := hf.other b hb
        have hnot : ∀ x, isNumeral x = false → isDigit x = false := fun x hx =>
          Bool.eq_false_iff.mpr fun hd => absurd (isNumeral_of_isDigit hd) (by simp [hx])
        rw [leadingDigits, hnot b hb, if_neg Bool.false_ne_true, List.flatMap_cons, hcode, List.cons_append,
          leadingDigits, hnot h hh, if_neg Bool.false_ne_true]

lemma scanDigits_flatMap (w : Nat) (s : List UInt8) :
    scanDigits w (s.flatMap f) = (scanDigits w s).map fun p => (p.1, p.2.flatMap f) := by
  unfold scanDigits
  rw [leadingDigits_flatMap hf]
  split <;> rfl

lemma eq_cons_of_flatMap {c : UInt8} {r : List UInt8} (hc : isNumeral c = true) (h : s.flatMap f = c :: r) :
    ∃ s', s = c :: s' ∧ r = s'.flatMap f := by
  cases s with
  | nil => cases h
  | cons b s =>
    rw [List.flatMap_cons] at h
    cases hb : isNumeral b with
    | true =>
      rw [hf.numeral b hb, List.singleton_append] at h
      obtain ⟨rfl, rfl⟩ := List.cons.inj h
      exact ⟨s, rfl, rfl⟩
    | false =>
      obtain ⟨x, t, hcode, hx⟩ := hf.other b hb
      rw [hcode, List.cons_append] at h
      obtain ⟨rfl, -⟩ := List.cons.inj h
      exact absurd hc (by simp [hx])

lemma scanUnsigned_flatMap (w : Nat) (s : List UInt8) :
    scanUnsigned w (s.flatMap f) = (scanUnsigned w s).map fun p => (p.1, p.2.flatMap f) := by
  have hzero : isNumeral 0x30 = true := rfl
  by_cases h : ∃ x r, s = 0x30 :: x :: r ∧ (x = 0x78 ∨ x = 0x58)
  · obtain ⟨x, r, rfl, hx⟩ := h
    have hnumeral : isNumeral x = true := by rcases hx with rfl | rfl <;> rfl
    have hcode : (0x30 :: x :: r).flatMap f = 0x30 :: x :: r.flatMap f := by
      rw [List.flatMap_cons, List.flatMap_cons, hf.numeral _ hzero, hf.numeral _ hnumeral]
      rfl
    have hwhole := scanDigits_flatMap hf w (0x30 :: x :: r)
    rw [hcode] at hwhole ⊢
    rw [scanUnsigned, scanUnsigned]
    split
    · exact scanDigits_flatMap hf (w - 2) r
    · exact hwhole
  · have hplain : ∀ x r, s = 0x30 :: x :: r → x ≠ 0x78 ∧ x ≠ 0x58 := fun x r hs =>
      not_or.mp fun hx => h ⟨x, r, hs, hx⟩
    have hencoded : ∀ x r, s.flatMap f = 0x30 :: x :: r → x ≠ 0x78 ∧ x ≠ 0x58 := by
      intro x r hs
      obtain ⟨s', rfl, hs'⟩ := eq_cons_of_flatMap hf hzero hs
      refine not_or.mp fun hx => ?_
      have hnumeral : isNumeral x = true := by rcases hx with rfl | rfl <;> rfl
      obtain ⟨s'', rfl, -⟩ := eq_cons_of_flatMap hf hnumeral hs'.symm
      exact h ⟨x, s'', rfl, hx⟩
    rw [scanUnsigned_of_not_hex hplain, scanUnsigned_of_not_hex hencoded]
    exact scanDigits_flatMap hf w s

/-- **A field of an encoded text** is the field of the text. -/
theorem scan_flatMap (w : Nat) (s : List UInt8) :
    scan w (s.flatMap f) = (scan w s).map fun p => (p.1, p.2.flatMap f) := by
  have hsigned : ∀ x : UInt8, isNumeral x = true → ∀ r, (x :: r).flatMap f = x :: r.flatMap f := by
    intro x hx r
    rw [List.flatMap_cons, hf.numeral x hx]
    rfl
  by_cases h : ∃ x r, s = x :: r ∧ (x = 0x2d ∨ x = 0x2b)
  · obtain ⟨x, r, rfl, rfl | rfl⟩ := h
    all_goals
      rw [hsigned _ rfl, scan, scan, scanUnsigned_flatMap hf, Option.map_map, Option.map_map]
      rfl
  · have hplain : ∀ x r, s = x :: r → x ≠ 0x2d ∧ x ≠ 0x2b := fun x r hs => not_or.mp fun hx => h ⟨x, r, hs, hx⟩
    have hencoded : ∀ x r, s.flatMap f = x :: r → x ≠ 0x2d ∧ x ≠ 0x2b := by
      intro x r hs
      refine not_or.mp fun hx => ?_
      have hnumeral : isNumeral x = true := by rcases hx with rfl | rfl <;> rfl
      obtain ⟨s', rfl, -⟩ := eq_cons_of_flatMap hf hnumeral hs
      exact h ⟨x, s', rfl, hx⟩
    rw [scan_of_no_sign hplain, scan_of_no_sign hencoded, scanUnsigned_flatMap hf, Option.map_map, Option.map_map]
    rfl

end Encoded

end Hex
