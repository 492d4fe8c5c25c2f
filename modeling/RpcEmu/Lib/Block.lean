import Mathlib.Logic.Function.Basic
import Mathlib.Data.List.Basic
import Mathlib.Tactic.Common
import Mathlib.Algebra.Ring.Nat

/-!
# Blocks of memory that are filled from their start

A `Buffer` is what is asked of `malloc`, in bytes and as a 32-bit number, and the indexes that are then
written; a write past its end is recorded, and holds nothing.  A `Fill` is a block with the counter of `out[len++] = a`, and `Holds width size f xs` says that
all that has been written is `xs`, from index 0 on, and that the counter is at its end.

* **`Holds.push`** and **`Holds.pushAll`** are what a loop does, and
* **`Holds.first`** and **`Holds.inBounds`** what is known after it.
-/

structure Buffer where
  width : Nat
  size : UInt32
  written : List UInt32
  deriving DecidableEq, Repr

/-- Every element written is inside the block. -/
def Buffer.InBounds (b : Buffer) : Prop :=
  ∀ i ∈ b.written, (i.toNat + 1) * b.width ≤ b.size.toNat

instance (b : Buffer) : Decidable b.InBounds :=
  List.decidableBAll (fun i : UInt32 => (i.toNat + 1) * b.width ≤ b.size.toNat) b.written

structure Block (α : Type) extends Buffer where
  get : UInt32 → α

structure Fill (α : Type) where
  block : Block α
  len : UInt32

variable {α : Type}

/-- `buf[i] = a`.  What goes past the end is lost. -/
def Block.write (b : Block α) (i : UInt32) (a : α) : Block α :=
  { b with
    written := i :: b.written
    get := if (i.toNat + 1) * b.width ≤ b.size.toNat then Function.update b.get i a else b.get }

def Block.first (b : Block α) (n : UInt32) : List α :=
  (List.range n.toNat).map fun i => b.get (UInt32.ofNat i)

@[simp] lemma Block.length_first (b : Block α) (n : UInt32) : (b.first n).length = n.toNat := by
  simp [Block.first]

namespace Fill

/-- `malloc`, with whatever is there. -/
def malloc (width : Nat) (size : UInt32) (junk : UInt32 → α) : Fill α :=
  ⟨⟨⟨width, size, []⟩, junk⟩, 0⟩

/-- `buf[len++] = a`. -/
def push (f : Fill α) (a : α) : Fill α :=
  ⟨f.block.write f.len a, f.len + 1⟩

/-- The block holds the elements put so far. -/
structure Holds (width : Nat) (size : UInt32) (f : Fill α) (xs : List α) : Prop where
  width : f.block.width = width
  size : f.block.size = size
  len : f.len.toNat = xs.length
  get : ∀ i a, xs[i]? = some a → (i + 1) * f.block.width ≤ f.block.size.toNat → f.block.get (UInt32.ofNat i) = a
  written : ∀ i ∈ f.block.written, i.toNat < xs.length

lemma holds_malloc (width : Nat) (size : UInt32) (junk : UInt32 → α) :
    Holds width size (malloc width size junk) [] where
  width := rfl
  size := rfl
  len := rfl
  get := by simp
  written := by simp [malloc]

variable {width : Nat} {size : UInt32} {f : Fill α} {xs ys : List α} {a : α}

lemma Holds.push (h : Holds width size f xs) (hroom : xs.length + 1 < 2 ^ 32) :
    Holds width size (f.push a) (xs ++ [a]) where
  width := h.width
  size := h.size
  len := by
    have hlen := h.len
    have hsum : (f.len + 1).toNat = xs.length + 1 := by
      rw [UInt32.toNat_add, hlen, UInt32.toNat_one, Nat.mod_eq_of_lt hroom]
    rw [List.length_append, List.length_singleton]
    exact hsum
  get i b hb hin := by
    have hlen := h.len
    change (i + 1) * f.block.width ≤ f.block.size.toNat at hin
    change (if (f.len.toNat + 1) * f.block.width ≤ f.block.size.toNat then Function.update f.block.get f.len a
      else f.block.get) (UInt32.ofNat i) = b
    rcases Nat.lt_or_ge i xs.length with hi | hi
    · have hne : UInt32.ofNat i ≠ f.len := by
        intro heq
        have hnat := congrArg UInt32.toNat heq
        rw [UInt32.toNat_ofNat_of_lt' (by rw [UInt32.size]; omega), hlen] at hnat
        omega
      rw [List.getElem?_append_left hi] at hb
      split
      · rw [Function.update_of_ne hne, h.get i b hb hin]
      · exact h.get i b hb hin
    · have heq : i = xs.length := by
        have := (List.getElem?_eq_some_iff.mp hb).1
        rw [List.length_append, List.length_singleton] at this
        omega
      subst heq
      have hat : UInt32.ofNat xs.length = f.len := by rw [← hlen, UInt32.ofNat_toNat]
      rw [List.getElem?_concat_length, Option.some.injEq] at hb
      rw [hlen, if_pos hin, hat, Function.update_self, hb]
  written i hi := by
    rw [List.length_append, List.length_singleton]
    rcases List.mem_cons.mp hi with rfl | hi
    · have hlen := h.len
      omega
    · have := h.written i hi
      omega

lemma Holds.pushAll (h : Holds width size f xs) (ys : List α) (hroom : xs.length + ys.length < 2 ^ 32) :
    Holds width size (ys.foldl Fill.push f) (xs ++ ys) := by
  induction ys generalizing f xs with
  | nil => simpa using h
  | cons a ys ih =>
    rw [List.length_cons] at hroom
    have hnext := ih (h.push (a := a) (by omega)) (by simp; omega)
    simpa using hnext

lemma Holds.first_of_append {n : UInt32} (h : Holds width size f (xs ++ ys)) (hn : n.toNat = xs.length)
    (hroom : xs.length * width ≤ size.toNat) : f.block.first n = xs := by
  refine List.ext_getElem? fun i => ?_
  rw [Block.first, hn, List.getElem?_map]
  cases hx : xs[i]? with
  | none =>
    rw [List.getElem?_eq_none_iff] at hx
    rw [List.getElem?_eq_none (by simpa using hx), Option.map_none]
  | some a =>
    have hi := (List.getElem?_eq_some_iff.mp hx).1
    have hget := h.get i a (by rw [List.getElem?_append_left hi, hx])
      (by rw [h.width, h.size]; exact Nat.le_trans (Nat.mul_le_mul_right _ hi) hroom)
    rw [List.getElem?_range hi, Option.map_some, hget]

lemma Holds.first (h : Holds width size f xs) (hroom : xs.length * width ≤ size.toNat) :
    f.block.first f.len = xs := by
  have happend : Holds width size f (xs ++ []) := by simpa using h
  exact happend.first_of_append h.len hroom

lemma Holds.inBounds (h : Holds width size f xs) (hroom : xs.length * width ≤ size.toNat) :
    f.block.InBounds := by
  intro i hi
  have hlt := h.written i hi
  rw [h.width, h.size]
  exact Nat.le_trans (Nat.mul_le_mul_right _ hlt) hroom

end Fill
