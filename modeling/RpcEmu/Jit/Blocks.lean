import Mathlib.Logic.Function.Basic
import Mathlib.Tactic.Common

/-!
# The recompiler's block cache

The tables of `codegen_arm64.c` and the functions that change them.  A block of translated code sits
in one of `BLOCKS` slots of `rcodeblock`, which are handed out in turn; three tables indexed by a hash
of the program counter say which block, if any, starts there.

**The hash tables.**  `codeblockpc` holds the block's own PC, or `noBlock`; `codeblockword` the word
size it was translated for; `codeblocknum` its slot.

**The way back.**  `blocks` holds, for each slot, the hash its block was entered under, so that a slot
taken again takes its old entry out of the hash tables.

**Presence.**  `codeblockpresent` is a flag for each page number, less its top four bits: when it is
clear, `cacheclearpage` has nothing to do.

**The code.**  What is emitted into a slot is kept as the instructions it was made from, with the PC
and the word size they were translated for and whether `endblock` has added the tail.
-/

namespace RpcEmu.Jit

/-- `0xffffffff`: no block here. -/
def noBlock : UInt32 := 0xffffffff

/-- `BLOCKS`: the slots of the cache. -/
def numBlocks : Nat := 1024

/-- `HASH`. -/
def hash (l : UInt32) : UInt32 := (l >>> 2) &&& 0x7fff

/-- What has been emitted into one slot since `initcodeblock` started it. -/
structure Code where
  pc : UInt32
  word32 : Bool
  opcodes : List UInt32
  ended : Bool
  deriving DecidableEq

structure Blocks where
  codeblockpc : UInt32 → UInt32
  codeblocknum : UInt32 → UInt32
  codeblockword : UInt32 → Bool
  codeblockpresent : UInt32 → Bool
  blocks : UInt32 → UInt32
  /-- The slot handed out last. -/
  blockpoint : UInt32
  /-- The slot code is being emitted into. -/
  blockpoint2 : UInt32
  rcodeblock : UInt32 → Code

/-- The tables as the emulator starts: static data is zero, and `initcodeblocks` fills two of them. -/
def initcodeblocks : Blocks where
  codeblockpc := fun _ => noBlock
  codeblocknum := fun _ => 0
  codeblockword := fun _ => false
  codeblockpresent := fun _ => false
  blocks := fun _ => noBlock
  blockpoint := 0
  blockpoint2 := 0
  rcodeblock := fun _ => ⟨0, false, [], false⟩

variable (b : Blocks)

def dropEntry (slot : UInt32) : Blocks :=
  if b.blocks slot ≠ noBlock then
    { b with
      codeblockpc := Function.update b.codeblockpc (b.blocks slot &&& 0x7fff) noBlock
      codeblocknum := Function.update b.codeblocknum (b.blocks slot &&& 0x7fff) noBlock }
  else b

/-- One turn of the loop of `resetcodeblocks`. -/
def resetSlot (slot : UInt32) : Blocks :=
  let b := dropEntry b slot
  { b with blocks := Function.update b.blocks slot noBlock }

/-- `resetcodeblocks`. -/
def resetcodeblocks : Blocks :=
  (List.range numBlocks).foldl (fun b c => resetSlot b (UInt32.ofNat c)) { b with blockpoint := 0 }

/-- One turn of the loop of `cacheclearpage`. -/
def clearSlot (a h : UInt32) : Blocks :=
  if b.codeblockpc h >>> 12 = a then
    { b with codeblockpc := Function.update b.codeblockpc h noBlock }
  else b

def unmark (a : UInt32) : Blocks :=
  { b with codeblockpresent := Function.update b.codeblockpresent (a &&& 0xffff) false }

/-- `cacheclearpage`. -/
def cacheclearpage (a : UInt32) : Blocks :=
  if !b.codeblockpresent (a &&& 0xffff) then b
  else
    (List.range 0x400).foldl (fun b c => clearSlot b a (UInt32.ofNat c + hash (a <<< 12)))
      (unmark b a)

/-- `initcodeblock`: the next slot is taken, its old entry dropped, and the new block entered in the
tables before any of its code is there. -/
def initcodeblock (l : UInt32) (word32 : Bool) : Blocks :=
  let b := { b with
    codeblockpresent := Function.update b.codeblockpresent ((l >>> 12) &&& 0xffff) true
    blockpoint := (b.blockpoint + 1) &&& 0x3ff }
  let b := dropEntry b b.blockpoint
  { b with
    codeblockpc := Function.update b.codeblockpc (hash l) l
    codeblockword := Function.update b.codeblockword (hash l) word32
    codeblocknum := Function.update b.codeblocknum (hash l) b.blockpoint
    blocks := Function.update b.blocks b.blockpoint (hash l)
    blockpoint2 := b.blockpoint
    rcodeblock := Function.update b.rcodeblock b.blockpoint ⟨l, word32, [], false⟩ }

def emit (opcode : UInt32) : Blocks :=
  let code := b.rcodeblock b.blockpoint2
  let code' := { code with opcodes := code.opcodes ++ [opcode] }
  { b with rcodeblock := Function.update b.rcodeblock b.blockpoint2 code' }

/-- `endblock`: the tail that leads out of the block. -/
def endblock : Blocks :=
  let code := b.rcodeblock b.blockpoint2
  let code' := { code with ended := true }
  { b with rcodeblock := Function.update b.rcodeblock b.blockpoint2 code' }

/-! ## The hash -/

lemma hash_toNat (l : UInt32) : (hash l).toNat = l.toNat / 4 % 0x8000 := by
  simp only [hash, UInt32.toNat_and, UInt32.toNat_shiftRight]
  rw [show (0x7fff : UInt32).toNat = 2 ^ 15 - 1 from rfl, Nat.and_two_pow_sub_one_eq_mod,
    show (2 : UInt32).toNat % 32 = 2 from rfl, Nat.shiftRight_eq_div_pow]

lemma hash_and (l : UInt32) : hash l &&& 0x7fff = hash l := by
  simp [hash, UInt32.and_assoc]

lemma hash_ne_noBlock (l : UInt32) : hash l ≠ noBlock := by
  intro h
  have h' := congrArg UInt32.toNat h
  rw [hash_toNat, show noBlock.toNat = 0xffffffff from rfl] at h'
  omega

lemma hash_in_page (l : UInt32) :
    ∃ c < 0x400, UInt32.ofNat c + hash ((l >>> 12) <<< 12) = hash l := by
  have hlt := l.toNat_lt
  refine ⟨l.toNat % 0x1000 / 4, by omega, ?_⟩
  apply UInt32.toNat_inj.mp
  have hfirst : ((l >>> 12) <<< 12).toNat = l.toNat / 0x1000 * 0x1000 := by
    rw [UInt32.toNat_shiftLeft, UInt32.toNat_shiftRight]
    simp only [UInt32.reduceToNat, Nat.reduceMod, Nat.reducePow, Nat.shiftRight_eq_div_pow,
      Nat.shiftLeft_eq]
    omega
  rw [UInt32.toNat_add, hash_toNat, hash_toNat, hfirst, UInt32.toNat_ofNat']
  omega

/-! ## What the loops leave -/

section Loops

variable {b : Blocks} {I J : Blocks → Prop} {turn : Blocks → Nat → Blocks}

lemma loop_inv (hturn : ∀ b c, I b → I (turn b c)) (cs : List Nat) (b : Blocks) (h : I b) :
    I (cs.foldl turn b) := by
  induction cs generalizing b with
  | nil => exact h
  | cons c cs ih => exact ih _ (hturn b c h)

lemma loop_reaches {c : Nat} (hinv : ∀ b c, J b → J (turn b c)) (hkeep : ∀ b c, I b → I (turn b c))
    (hmake : ∀ b, J b → I (turn b c)) {cs : List Nat} (hc : c ∈ cs) (b : Blocks) (hb : J b) :
    I (cs.foldl turn b) := by
  induction cs generalizing b with
  | nil => cases hc
  | cons c' cs ih =>
    rcases List.mem_cons.mp hc with rfl | hc'
    · exact loop_inv hkeep cs _ (hmake b hb)
    · exact ih hc' _ (hinv b c' hb)

lemma resetcodeblocks_inv (hturn : ∀ b slot, I b → I (resetSlot b slot))
    (h : I { b with blockpoint := 0 }) : I (resetcodeblocks b) := by
  unfold resetcodeblocks
  refine loop_inv ?_ _ _ h
  exact fun b c => hturn b _

lemma resetcodeblocks_reaches {c : Nat} (hc : c < numBlocks)
    (hinv : ∀ b slot, J b → J (resetSlot b slot)) (hkeep : ∀ b slot, I b → I (resetSlot b slot))
    (hmake : ∀ b, J b → I (resetSlot b (UInt32.ofNat c))) (h : J { b with blockpoint := 0 }) :
    I (resetcodeblocks b) := by
  unfold resetcodeblocks
  refine loop_reaches (J := J) ?_ ?_ ?_ (List.mem_range.mpr hc) _ h
  · exact fun b c => hinv b _
  · exact fun b c => hkeep b _
  · exact hmake

lemma cacheclearpage_absent {a : UInt32} (h : b.codeblockpresent (a &&& 0xffff) = false) :
    cacheclearpage b a = b := by simp [cacheclearpage, h]

lemma cacheclearpage_inv {a : UInt32} (h : b.codeblockpresent (a &&& 0xffff) = true)
    (hturn : ∀ b h, I b → I (clearSlot b a h)) (hb : I (unmark b a)) : I (cacheclearpage b a) := by
  unfold cacheclearpage
  rw [h, Bool.not_true, if_neg Bool.false_ne_true]
  refine loop_inv ?_ _ _ hb
  exact fun b c => hturn b _

lemma cacheclearpage_reaches {a : UInt32} {c : Nat} (hc : c < 0x400)
    (h : b.codeblockpresent (a &&& 0xffff) = true) (hkeep : ∀ b h, I b → I (clearSlot b a h))
    (hmake : ∀ b, I (clearSlot b a (UInt32.ofNat c + hash (a <<< 12)))) : I (cacheclearpage b a) := by
  unfold cacheclearpage
  rw [h, Bool.not_true, if_neg Bool.false_ne_true]
  refine loop_reaches (J := fun _ => True) ?_ ?_ ?_ (List.mem_range.mpr hc) _ trivial
  · exact fun _ _ _ => trivial
  · exact fun b c => hkeep b _
  · exact fun b _ => hmake b

end Loops

end RpcEmu.Jit
