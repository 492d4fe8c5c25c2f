import RpcEmu.Net.JsonDecode
import Mathlib.Algebra.Ring.Nat

/-!
# Base64 there and back

`base64_encode` of `net_json.c`, which `base64_decode` undoes.  Each character brings six bits; what is pending
between two of them is the low bits of the accumulator, and what is above those is never looked at, so the bytes of
three characters are the same whatever came before them (`base64Loop_char`).
-/

namespace RpcEmu.Net

def base64Alphabet : List UInt8 :=
  ascii "ABCDEFGHIJKLMNOPQRSTUVWXYZabcdefghijklmnopqrstuvwxyz0123456789+/".toList

def base64Char (v : UInt32) : UInt8 := base64Alphabet.getD (v &&& 0x3f).toNat 0

/-- `base64_encode`. -/
def base64Encode : List UInt8 → List UInt8
  | a :: b :: c :: rest =>
    let v := (a.toUInt32 <<< 16) ||| (b.toUInt32 <<< 8) ||| c.toUInt32
    base64Char (v >>> 18) :: base64Char (v >>> 12) :: base64Char (v >>> 6) :: base64Char v :: base64Encode rest
  | [a, b] =>
    let v := (a.toUInt32 <<< 16) ||| (b.toUInt32 <<< 8)
    [base64Char (v >>> 18), base64Char (v >>> 12), base64Char (v >>> 6), 61]
  | [a] =>
    let v := a.toUInt32 <<< 16
    [base64Char (v >>> 18), base64Char (v >>> 12), 61, 61]
  | [] => []

def sextetChar (n : Nat) : UInt8 := base64Alphabet.getD n 0

lemma base64Value_sextetChar : ∀ n : Fin 64, base64Value (sextetChar n) = some (UInt32.ofNat n) := by decide +kernel

lemma sextetChar_plain : ∀ n : Fin 64, sextetChar n ≠ 61 ∧ sextetChar n ≠ 34 ∧ sextetChar n ≠ 0 ∧ sextetChar n ≠ 10 := by
  decide +kernel

lemma base64Char_eq (v : UInt32) : base64Char v = sextetChar (v.toNat % 64) := by
  have hlow : (v &&& 0x3f).toNat = v.toNat % 64 := Nat.and_two_pow_sub_one_eq_mod v.toNat 6
  rw [base64Char, hlow]
  rfl

lemma toNat_shiftRight_of (v : UInt32) {k : UInt32} (hk : k.toNat < 32) :
    (v >>> k).toNat = v.toNat / 2 ^ k.toNat := by
  rw [UInt32.toNat_shiftRight, Nat.mod_eq_of_lt hk, Nat.shiftRight_eq_div_pow]

lemma toNat_three (a b c : UInt8) :
    ((a.toUInt32 <<< 16) ||| (b.toUInt32 <<< 8) ||| c.toUInt32).toNat =
      a.toNat * 2 ^ 16 + b.toNat * 2 ^ 8 + c.toNat := by
  have ha := a.toNat_lt
  have hb := b.toNat_lt
  have hc := c.toNat_lt
  have hsum : a.toNat <<< 16 ||| b.toNat <<< 8 ||| c.toNat = a.toNat * 2 ^ 16 + b.toNat * 2 ^ 8 + c.toNat := by
    have hbc : b.toNat <<< 8 ||| c.toNat = b.toNat <<< 8 + c.toNat :=
      (Nat.shiftLeft_add_eq_or_of_lt (by omega) b.toNat).symm
    rw [Nat.or_assoc, hbc, ← Nat.shiftLeft_add_eq_or_of_lt, Nat.shiftLeft_eq, Nat.shiftLeft_eq, Nat.add_assoc]
    rw [Nat.shiftLeft_eq]
    omega
  rw [← hsum]
  simp only [UInt32.toNat_or, UInt32.toNat_shiftLeft, UInt8.toNat_toUInt32]
  change (a.toNat <<< 16 % 2 ^ 32) ||| (b.toNat <<< 8 % 2 ^ 32) ||| c.toNat = _
  rw [Nat.mod_eq_of_lt, Nat.mod_eq_of_lt] <;> rw [Nat.shiftLeft_eq] <;> omega

lemma base64Chars_eq {v : UInt32} {a b c : UInt8} (hv : v.toNat = a.toNat * 2 ^ 16 + b.toNat * 2 ^ 8 + c.toNat) :
    base64Char (v >>> 18) = sextetChar (a.toNat / 4) ∧
      base64Char (v >>> 12) = sextetChar (a.toNat % 4 * 16 + b.toNat / 16) ∧
        base64Char (v >>> 6) = sextetChar (b.toNat % 16 * 4 + c.toNat / 64) ∧
          base64Char v = sextetChar (c.toNat % 64) := by
  have ha := a.toNat_lt
  have hb := b.toNat_lt
  have hc := c.toNat_lt
  simp only [base64Char_eq, toNat_shiftRight_of v (k := 18) (by decide), toNat_shiftRight_of v (k := 12) (by decide),
    toNat_shiftRight_of v (k := 6) (by decide), hv]
  refine ⟨congrArg sextetChar ?_, congrArg sextetChar ?_, congrArg sextetChar ?_, congrArg sextetChar ?_⟩
  · change (a.toNat * 2 ^ 16 + b.toNat * 2 ^ 8 + c.toNat) / 2 ^ 18 % 64 = _
    omega
  · change (a.toNat * 2 ^ 16 + b.toNat * 2 ^ 8 + c.toNat) / 2 ^ 12 % 64 = _
    omega
  · change (a.toNat * 2 ^ 16 + b.toNat * 2 ^ 8 + c.toNat) / 2 ^ 6 % 64 = _
    omega
  · omega

lemma push_sextet (acc : UInt32) {n : Nat} (hn : n < 64) :
    ((acc <<< 6) ||| UInt32.ofNat n).toNat % 4096 = acc.toNat % 64 * 64 + n := by
  have hn' : (UInt32.ofNat n).toNat = n := UInt32.toNat_ofNat_of_lt' (lt_trans hn (by decide))
  have hmod : ∀ x y : Nat, (x ||| y) % 2 ^ 12 = (x % 2 ^ 12) ||| (y % 2 ^ 12) := fun x y => Nat.or_mod_two_pow
  have hshift : (acc <<< 6).toNat % 2 ^ 12 = (acc.toNat % 64) <<< 6 := by
    rw [UInt32.toNat_shiftLeft, Nat.shiftLeft_eq, Nat.shiftLeft_eq]
    change acc.toNat * 2 ^ 6 % 2 ^ 32 % 2 ^ 12 = _
    omega
  rw [UInt32.toNat_or, hn']
  change _ % 2 ^ 12 = _
  rw [hmod, hshift, Nat.mod_eq_of_lt (lt_trans hn (by decide)), ← Nat.shiftLeft_add_eq_or_of_lt (by simpa using hn),
    Nat.shiftLeft_eq]

lemma byte_of_acc {acc : UInt32} {bits : UInt32} {r : Nat} (hbits : bits.toNat ≤ 4) (hacc : acc.toNat % 4096 = r) :
    ((acc >>> bits) &&& 0xff).toUInt8.toNat = r / 2 ^ bits.toNat % 256 := by
  have hlow : ((acc >>> bits) &&& 0xff).toNat = acc.toNat / 2 ^ bits.toNat % 256 := by
    rw [UInt32.toNat_and, toNat_shiftRight_of acc (by omega)]
    exact Nat.and_two_pow_sub_one_eq_mod _ 8
  have hcases : bits.toNat = 0 ∨ bits.toNat = 1 ∨ bits.toNat = 2 ∨ bits.toNat = 3 ∨ bits.toNat = 4 := by omega
  rw [UInt32.toNat_toUInt8, hlow, ← hacc]
  rcases hcases with h | h | h | h | h <;> rw [h] <;> omega

/-- **One character** of the payload: no byte yet. -/
lemma base64Loop_pend {outSize : Nat} {cs out : List UInt8} {acc : UInt32} {n : Nat} (hn : n < 64) :
    base64Loop outSize (sextetChar n :: cs) acc 0 out =
      base64Loop outSize cs ((acc <<< 6) ||| UInt32.ofNat n) 6 out := by
  rw [base64Loop, if_neg (sextetChar_plain ⟨n, hn⟩).1, base64Value_sextetChar ⟨n, hn⟩]
  rfl

/-- **One character** that completes a byte. -/
lemma base64Loop_char {outSize : Nat} {cs out : List UInt8} {acc bits left : UInt32} {n : Nat} {b : UInt8}
    (hn : n < 64) (hbits : bits = 6 ∧ left = 4 ∨ bits = 4 ∧ left = 2 ∨ bits = 2 ∧ left = 0)
    (hout : out.length < outSize)
    (hb : (acc.toNat % 64 * 64 + n) / 2 ^ left.toNat % 256 = b.toNat) :
    base64Loop outSize (sextetChar n :: cs) acc bits out =
      base64Loop outSize cs ((acc <<< 6) ||| UInt32.ofNat n) left (out ++ [b]) := by
  have hnext : 8 ≤ bits + 6 ∧ bits + 6 - 8 = left ∧ left.toNat ≤ 4 := by
    rcases hbits with ⟨rfl, rfl⟩ | ⟨rfl, rfl⟩ | ⟨rfl, rfl⟩ <;> decide
  obtain ⟨hfull, hleft, hsmall⟩ := hnext
  have hbyte : ((((acc <<< 6) ||| UInt32.ofNat n) >>> left) &&& 0xff).toUInt8 = b :=
    UInt8.toNat_inj.mp ((byte_of_acc hsmall (push_sextet acc hn)).trans hb)
  rw [base64Loop, if_neg (sextetChar_plain ⟨n, hn⟩).1, base64Value_sextetChar ⟨n, hn⟩]
  dsimp only
  rw [if_pos hfull, if_neg (Nat.not_le.mpr hout), hleft, hbyte]

lemma pending_sextet (acc : UInt32) {n : Nat} (hn : n < 64) :
    ((acc <<< 6) ||| UInt32.ofNat n).toNat % 64 = n := by
  have hpush := push_sextet acc hn
  omega

lemma first_byte (acc : UInt32) (a : UInt8) {n : Nat} (hn : n < 16) :
    (((acc <<< 6) ||| UInt32.ofNat (a.toNat / 4)).toNat % 64 * 64 + (a.toNat % 4 * 16 + n)) /
      2 ^ (4 : UInt32).toNat % 256 = a.toNat := by
  have ha := a.toNat_lt
  rw [pending_sextet acc (by omega)]
  change (a.toNat / 4 * 64 + (a.toNat % 4 * 16 + n)) / 2 ^ 4 % 256 = _
  omega

lemma second_byte (acc : UInt32) (b : UInt8) {m n : Nat} (hm : m < 4) (hn : n < 4) :
    (((acc <<< 6) ||| UInt32.ofNat (m * 16 + b.toNat / 16)).toNat % 64 * 64 + (b.toNat % 16 * 4 + n)) /
      2 ^ (2 : UInt32).toNat % 256 = b.toNat := by
  have hb := b.toNat_lt
  rw [pending_sextet acc (by omega)]
  change ((m * 16 + b.toNat / 16) * 64 + (b.toNat % 16 * 4 + n)) / 2 ^ 2 % 256 = _
  omega

lemma third_byte (acc : UInt32) (c : UInt8) {m : Nat} (hm : m < 16) :
    (((acc <<< 6) ||| UInt32.ofNat (m * 4 + c.toNat / 64)).toNat % 64 * 64 + c.toNat % 64) /
      2 ^ (0 : UInt32).toNat % 256 = c.toNat := by
  have hc := c.toNat_lt
  rw [pending_sextet acc (by omega)]
  change ((m * 4 + c.toNat / 64) * 64 + c.toNat % 64) / 2 ^ 0 % 256 = _
  omega

lemma base64Loop_equals (outSize : Nat) (cs out : List UInt8) (acc bits : UInt32) :
    base64Loop outSize (61 :: cs) acc bits out = some out := rfl

/-- **Base64 there and back**, whatever is left in the accumulator. -/
lemma base64Loop_encode {outSize : Nat} (payload : List UInt8) (acc : UInt32) (out : List UInt8)
    (hroom : out.length + payload.length ≤ outSize) :
    base64Loop outSize (base64Encode payload) acc 0 out = some (out ++ payload) := by
  induction payload using base64Encode.induct generalizing acc out with
  | case1 a b c rest ih =>
    have ha := a.toNat_lt
    have hb := b.toNat_lt
    have hc := c.toNat_lt
    rw [List.length_cons, List.length_cons, List.length_cons] at hroom
    obtain ⟨h0, h1, h2, h3⟩ := base64Chars_eq (toNat_three a b c)
    rw [base64Encode, h0, h1, h2, h3, base64Loop_pend (by omega),
      base64Loop_char (by omega) (Or.inl ⟨rfl, rfl⟩) (by omega) (first_byte acc a (by omega)),
      base64Loop_char (by omega) (Or.inr (Or.inl ⟨rfl, rfl⟩)) (by simp; omega)
        (second_byte _ b (by omega) (by omega)),
      base64Loop_char (by omega) (Or.inr (Or.inr ⟨rfl, rfl⟩)) (by simp; omega) (third_byte _ c (by omega))]
    refine (ih _ _ (by simp; omega)).trans ?_
    simp
  | case2 a b =>
    have ha := a.toNat_lt
    have hb := b.toNat_lt
    have hthree := toNat_three a b 0
    have hzero : UInt8.toUInt32 0 = 0 := rfl
    rw [hzero, UInt32.or_zero] at hthree
    rw [List.length_cons, List.length_singleton] at hroom
    obtain ⟨h0, h1, h2, -⟩ := base64Chars_eq hthree
    have hlast : b.toNat % 16 * 4 + (0 : UInt8).toNat / 64 = b.toNat % 16 * 4 + 0 := rfl
    rw [hlast] at h2
    rw [base64Encode, h0, h1, h2, base64Loop_pend (by omega),
      base64Loop_char (by omega) (Or.inl ⟨rfl, rfl⟩) (by omega) (first_byte acc a (by omega)),
      base64Loop_char (by omega) (Or.inr (Or.inl ⟨rfl, rfl⟩)) (by simp; omega)
        (second_byte _ b (by omega) (by omega)), base64Loop_equals]
    simp
  | case3 a =>
    have ha := a.toNat_lt
    have hthree := toNat_three a 0 0
    have hzero : UInt8.toUInt32 0 = 0 := rfl
    rw [hzero, UInt32.zero_shiftLeft, UInt32.or_zero, UInt32.or_zero] at hthree
    rw [List.length_singleton] at hroom
    obtain ⟨h0, h1, -, -⟩ := base64Chars_eq hthree
    have hlast : a.toNat % 4 * 16 + (0 : UInt8).toNat / 16 = a.toNat % 4 * 16 + 0 := rfl
    rw [hlast] at h1
    rw [base64Encode, h0, h1, base64Loop_pend (by omega),
      base64Loop_char (by omega) (Or.inl ⟨rfl, rfl⟩) (by omega) (first_byte acc a (by omega)), base64Loop_equals]
  | case4 => simp [base64Encode, base64Loop]

lemma mem_base64Encode {payload : List UInt8} {c : UInt8} (hc : c ∈ base64Encode payload) :
    c = 61 ∨ ∃ n : Fin 64, c = sextetChar n := by
  have hchar : ∀ v : UInt32, ∃ n : Fin 64, base64Char v = sextetChar n := fun v =>
    ⟨⟨v.toNat % 64, Nat.mod_lt _ (by decide)⟩, base64Char_eq v⟩
  induction payload using base64Encode.induct with
  | case1 a b d rest ih =>
    simp only [base64Encode, List.mem_cons] at hc
    rcases hc with rfl | rfl | rfl | rfl | hc
    · exact Or.inr (hchar _)
    · exact Or.inr (hchar _)
    · exact Or.inr (hchar _)
    · exact Or.inr (hchar _)
    · exact ih hc
  | case2 a b =>
    simp only [base64Encode, List.mem_cons, List.not_mem_nil, or_false] at hc
    rcases hc with rfl | rfl | rfl | rfl
    · exact Or.inr (hchar _)
    · exact Or.inr (hchar _)
    · exact Or.inr (hchar _)
    · exact Or.inl rfl
  | case3 a =>
    simp only [base64Encode, List.mem_cons, List.not_mem_nil, or_false] at hc
    rcases hc with rfl | rfl | rfl | rfl
    · exact Or.inr (hchar _)
    · exact Or.inr (hchar _)
    · exact Or.inl rfl
    · exact Or.inl rfl
  | case4 => exact absurd hc List.not_mem_nil

lemma base64Encode_plain {payload : List UInt8} {c : UInt8} (hc : c ∈ base64Encode payload) :
    c ≠ 34 ∧ c ≠ 0 ∧ c ≠ 10 := by
  rcases mem_base64Encode hc with rfl | ⟨n, rfl⟩
  · decide
  · exact (sextetChar_plain n).2

end RpcEmu.Net
