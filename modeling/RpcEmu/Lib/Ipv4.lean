import Mathlib.Data.List.GetD
import Mathlib.Data.List.OfFn
import Mathlib.Logic.Function.Basic
import Mathlib.Tactic

/-!
# Receiving IPv4 datagrams in fragments

What a receiver makes of the packets it is given.  It checks the header of each, keeps the pieces of every
datagram it has not got all of, and gives a datagram out when it has.

* **Words.**  Headers are read as 16-bit words, `word`, and written as such, `wordsBytes`.
* **The checksum** is a sum in one's complement arithmetic, `onesSum`.  Of words below `2 ^ 16` it is all
  ones exactly when their plain sum is a multiple of `65535` and not zero.
-/

namespace Ipv4

/-! ## Words -/

def word (p : List UInt8) (i : Nat) : Nat := 256 * (p.getD i 0).toNat + (p.getD (i + 1) 0).toNat

def words (p : List UInt8) : List Nat := (List.range (p.length / 2)).map fun i => word p (2 * i)

def wordsBytes (ws : List UInt16) : List UInt8 := ws.flatMap fun w : UInt16 => [(w >>> 8).toUInt8, w.toUInt8]

lemma word_bytes (w : UInt16) : 256 * (w >>> 8).toUInt8.toNat + w.toUInt8.toNat = w.toNat := by
  have hhigh : (w >>> 8).toUInt8.toNat = w.toNat / 256 := by
    rw [UInt16.toNat_toUInt8, UInt16.toNat_shiftRight]
    have hlt := w.toNat_lt
    have hshift : w.toNat >>> ((8 : UInt16).toNat % 16) = w.toNat / 256 := Nat.shiftRight_eq_div_pow _ 8
    rw [hshift]
    omega
  rw [hhigh, UInt16.toNat_toUInt8]
  omega

@[simp] lemma length_wordsBytes (ws : List UInt16) : (wordsBytes ws).length = 2 * ws.length := by
  induction ws with
  | nil => rfl
  | cons w ws ih =>
    have hcons : wordsBytes (w :: ws) = (w >>> 8).toUInt8 :: w.toUInt8 :: wordsBytes ws := rfl
    rw [hcons, List.length_cons, List.length_cons, ih, List.length_cons]
    omega

lemma word_cons_cons (a b : UInt8) (p : List UInt8) (i : Nat) : word (a :: b :: p) (i + 2) = word p i := rfl

lemma word_wordsBytes (ws : List UInt16) (rest : List UInt8) (i : Nat) (hi : i < ws.length) :
    word (wordsBytes ws ++ rest) (2 * i) = (ws.getD i 0).toNat := by
  induction ws generalizing i with
  | nil => exact absurd hi (Nat.not_lt_zero _)
  | cons w ws ih =>
    have hcons : wordsBytes (w :: ws) ++ rest =
        (w >>> 8).toUInt8 :: w.toUInt8 :: (wordsBytes ws ++ rest) := rfl
    rw [hcons]
    cases i with
    | zero => exact word_bytes w
    | succ i =>
      rw [Nat.mul_succ, word_cons_cons, List.getD_cons_succ]
      exact ih i (Nat.lt_of_succ_lt_succ hi)

lemma words_wordsBytes (ws : List UInt16) : words (wordsBytes ws) = ws.map UInt16.toNat := by
  have hhalf : (wordsBytes ws).length / 2 = ws.length := by
    rw [length_wordsBytes]
    omega
  refine List.ext_getElem ?_ ?_
  · rw [words, List.length_map, List.length_range, List.length_map, hhalf]
  · intro i hi hi'
    rw [List.length_map] at hi'
    have hword := word_wordsBytes ws [] i hi'
    rw [List.append_nil, List.getD_eq_getElem _ _ hi'] at hword
    simp only [words, List.getElem_map, List.getElem_range, hword]

/-! ## The header checksum -/

def onesAdd (a b : Nat) : Nat := if a + b < 65536 then a + b else a + b - 65535

def onesSum (ws : List Nat) : Nat := ws.foldl onesAdd 0

lemma onesAdd_le {a b : Nat} (ha : a ≤ 65535) (hb : b ≤ 65535) : onesAdd a b ≤ 65535 := by
  unfold onesAdd
  split <;> omega

lemma onesAdd_mod (a b : Nat) : onesAdd a b % 65535 = (a + b) % 65535 := by
  unfold onesAdd
  split
  · rfl
  · omega

lemma onesAdd_eq_zero {a b : Nat} : onesAdd a b = 0 ↔ a = 0 ∧ b = 0 := by
  unfold onesAdd
  split <;> omega

lemma foldl_onesAdd {ws : List Nat} (hws : ∀ w ∈ ws, w ≤ 65535) {a : Nat} (ha : a ≤ 65535) :
    ws.foldl onesAdd a ≤ 65535 ∧ ws.foldl onesAdd a % 65535 = (a + ws.sum) % 65535 ∧
      (ws.foldl onesAdd a = 0 ↔ a + ws.sum = 0) := by
  induction ws generalizing a with
  | nil => simpa using ha
  | cons w ws ih =>
    have hw := hws w List.mem_cons_self
    obtain ⟨hle, hmod, hzero⟩ := ih (fun v hv => hws v (List.mem_cons_of_mem _ hv)) (onesAdd_le ha hw)
    have hstep := onesAdd_mod a w
    have hstep' := onesAdd_eq_zero (a := a) (b := w)
    rw [List.foldl_cons, List.sum_cons]
    refine ⟨hle, ?_, ?_⟩
    · rw [hmod, Nat.add_mod, hstep, ← Nat.add_mod, Nat.add_assoc]
    · rw [hzero]
      omega

/-- **When a checksum is right.** -/
theorem onesSum_eq_ones {ws : List Nat} (hws : ∀ w ∈ ws, w ≤ 65535) :
    onesSum ws = 65535 ↔ ws.sum % 65535 = 0 ∧ ws.sum ≠ 0 := by
  obtain ⟨hle, hmod, hzero⟩ := foldl_onesAdd hws (Nat.zero_le 65535)
  rw [Nat.zero_add] at hmod hzero
  rw [onesSum]
  omega

/-! ## Packets -/

structure Key where
  src : Nat
  dst : Nat
  protocol : Nat
  id : Nat
  deriving DecidableEq, Repr

structure Piece where
  offset : Nat
  more : Bool
  data : List UInt8
  deriving DecidableEq, Repr

def headerLen (p : List UInt8) : Nat := 4 * (word p 0 / 256 % 16)

/-- A whole IPv4 packet whose header sums to zero. -/
def WellFormed (p : List UInt8) : Prop :=
  word p 0 / 4096 = 4 ∧ 20 ≤ headerLen p ∧ headerLen p ≤ word p 2 ∧ word p 2 ≤ p.length ∧
    onesSum (words (p.take (headerLen p))) = 65535

instance (p : List UInt8) : Decidable (WellFormed p) := inferInstanceAs (Decidable (_ ∧ _ ∧ _ ∧ _ ∧ _))

def keyOf (p : List UInt8) : Key where
  src := 65536 * word p 12 + word p 14
  dst := 65536 * word p 16 + word p 18
  protocol := word p 8 % 256
  id := word p 4

def pieceOf (p : List UInt8) : Piece where
  offset := 8 * (word p 6 % 8192)
  more := word p 6 / 8192 % 2 = 1
  data := (p.take (word p 2)).drop (headerLen p)

def parse (p : List UInt8) : Option (Key × Piece) :=
  if WellFormed p then some (keyOf p, pieceOf p) else none

/-! ## Reassembly -/

def byteOf (ps : List Piece) (i : Nat) : Option UInt8 :=
  ps.findSome? fun p => if p.offset ≤ i then p.data[i - p.offset]? else none

def lengthOf (ps : List Piece) : Option Nat :=
  ps.findSome? fun p => if p.more then none else some (p.offset + p.data.length)

def assembled (ps : List Piece) : Option (List UInt8) :=
  (lengthOf ps).bind fun n => (List.range n).mapM (byteOf ps)

abbrev Table := Key → List Piece

def receive (t : Table) (k : Key) (p : Piece) : Table × List (Key × List UInt8) :=
  match assembled (p :: t k) with
  | some bytes => (Function.update t k [], [(k, bytes)])
  | none => (Function.update t k (p :: t k), [])

def receiveAll : Table → List (Key × Piece) → Table × List (Key × List UInt8)
  | t, [] => (t, [])
  | t, (k, p) :: rest =>
    let (t', out) := receive t k p
    let (t'', out') := receiveAll t' rest
    (t'', out ++ out')

def receivePackets (t : Table) (ps : List (List UInt8)) : Table × List (Key × List UInt8) :=
  receiveAll t (ps.filterMap parse)

/-! ## Datagrams that are cut in pieces -/

/-- Pieces of bytes that are at `offset`, in order, and the last of them and no other is said to be so. -/
inductive Cut : Nat → List UInt8 → List Piece → Prop
  | last (offset : Nat) (data : List UInt8) : Cut offset data [⟨offset, false, data⟩]
  | more (data : List UInt8) {offset rest ps} (h : Cut (offset + data.length) rest ps) :
      Cut offset (data ++ rest) (⟨offset, true, data⟩ :: ps)

/-- The pieces give the bytes so far, and no end. -/
structure Begun (ps : List Piece) (bytes : List UInt8) : Prop where
  byte : ∀ i, byteOf ps i = bytes[i]?
  length : lengthOf ps = none

lemma begun_nil : Begun [] [] := ⟨fun _ => rfl, rfl⟩

lemma byteOf_cons {ps : List Piece} {bytes : List UInt8} (h : ∀ i, byteOf ps i = bytes[i]?) (more : Bool)
    (data : List UInt8) (i : Nat) :
    byteOf (⟨bytes.length, more, data⟩ :: ps) i = (bytes ++ data)[i]? := by
  rw [byteOf, List.findSome?_cons]
  by_cases hi : bytes.length ≤ i
  · rw [if_pos hi, List.getElem?_append_right hi]
    cases hdata : data[i - bytes.length]? with
    | some b => rfl
    | none =>
      show byteOf ps i = none
      rw [h, List.getElem?_eq_none hi]
  · rw [if_neg hi, List.getElem?_append_left (by omega)]
    exact h i

lemma Begun.more {ps : List Piece} {bytes : List UInt8} (h : Begun ps bytes) (data : List UInt8) :
    Begun (⟨bytes.length, true, data⟩ :: ps) (bytes ++ data) :=
  ⟨byteOf_cons h.byte true data, h.length⟩

lemma mapM_getElem? (bytes : List UInt8) :
    (List.range bytes.length).mapM (fun i => bytes[i]?) = some bytes := by
  induction bytes with
  | nil => rfl
  | cons b bytes ih =>
    rw [List.length_cons, List.range_succ_eq_map, List.mapM_cons, List.mapM_map]
    simp only [List.getElem?_cons_zero, List.getElem?_cons_succ, Function.comp_def]
    rw [ih]
    rfl

lemma Begun.last {ps : List Piece} {bytes : List UInt8} (h : Begun ps bytes) (data : List UInt8) :
    assembled (⟨bytes.length, false, data⟩ :: ps) = some (bytes ++ data) := by
  have hlength : lengthOf (⟨bytes.length, false, data⟩ :: ps) = some (bytes ++ data).length := by
    rw [List.length_append]
    rfl
  have hbyte : byteOf (⟨bytes.length, false, data⟩ :: ps) = fun i => (bytes ++ data)[i]? :=
    funext (byteOf_cons h.byte false data)
  rw [assembled, hlength, hbyte]
  exact mapM_getElem? _

lemma Begun.assembled {ps : List Piece} {bytes : List UInt8} (h : Begun ps bytes) : assembled ps = none := by
  rw [Ipv4.assembled, h.length]
  rfl

/-- **A datagram in pieces that follow one another is received once**, and nothing of it is kept. -/
theorem receiveAll_cut {t : Table} {k : Key} {got rest : List UInt8} {ps : List Piece} {offset : Nat}
    (hcut : Cut offset rest ps) (hoffset : offset = got.length) (hbegun : Begun (t k) got) :
    receiveAll t (ps.map fun p => (k, p)) = (Function.update t k [], [(k, got ++ rest)]) := by
  induction hcut generalizing t got with
  | last offset data =>
    subst hoffset
    have hstep : receive t k ⟨got.length, false, data⟩ = (Function.update t k [], [(k, got ++ data)]) := by
      rw [receive, hbegun.last data]
    rw [List.map_singleton, receiveAll, hstep]
    rfl
  | more data h ih =>
    subst hoffset
    have hnext := hbegun.more data
    have hstep : receive t k ⟨got.length, true, data⟩ =
        (Function.update t k (⟨got.length, true, data⟩ :: t k), []) := by
      rw [receive, hnext.assembled]
    have hkept : Begun (Function.update t k (⟨got.length, true, data⟩ :: t k) k) (got ++ data) := by
      rw [Function.update_self]
      exact hnext
    have hrest := ih (t := Function.update t k (⟨got.length, true, data⟩ :: t k))
      (by rw [List.length_append]) hkept
    simp only [List.map_cons, receiveAll, hstep, hrest, Function.update_idem, List.append_assoc, List.nil_append]

/-! ## UDP -/

structure Udp where
  srcPort : Nat
  dstPort : Nat
  length : Nat
  checksum : Nat
  payload : List UInt8
  deriving DecidableEq, Repr

def parseUdp (bytes : List UInt8) : Option Udp :=
  if 8 ≤ word bytes 4 ∧ word bytes 4 ≤ bytes.length then
    some ⟨word bytes 0, word bytes 2, word bytes 4, word bytes 6, (bytes.take (word bytes 4)).drop 8⟩
  else none

end Ipv4
