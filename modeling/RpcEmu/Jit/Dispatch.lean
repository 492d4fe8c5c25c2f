import RpcEmu.Jit.Stale

/-!
# The recompiler's dispatcher

`arm_exec` of `arm_dynarec.c`, as far as the block cache is concerned.  At the head of its loop it
interprets (on a processor it does not recompile for, with the cache off or with the debugger
watching), runs the block recorded for the PC, or translates a new one while executing it; a block
that runs to its end goes on to the next through `jit_chain_next`.

**What is left open.**  What an instruction does to the processor, and which of the block cache's
clears it causes, is the run's to choose: every `Turn` brings the processor state it leaves.  So does
the debugger: `debugger_hook_active` is read afresh at each turn and may have changed, also while a
block is being generated.
-/

namespace RpcEmu.Jit

/-- What the dispatcher and `jit_chain_next` read of the processor. -/
structure Cpu where
  r15 : UInt32
  /-- `jit_word32`: set with `arm.r15_mask` whenever the mode changes. -/
  word32 : Bool
  event : UInt32
  interpretOnly : Bool
  dcache : Bool
  linecyc : Int
  deriving DecidableEq

def Cpu.r15Mask (cpu : Cpu) : UInt32 := if cpu.word32 then 0xfffffffc else 0x3fffffc

/-- `PC`. -/
def Cpu.pc (cpu : Cpu) : UInt32 := (cpu.r15 - 8) &&& cpu.r15Mask

inductive CacheCall
  | resetcodeblocks
  | cacheclearpage (a : PageNumber)

def CacheCall.apply (b : Blocks) : CacheCall → Blocks
  | .resetcodeblocks => Jit.resetcodeblocks b
  | .cacheclearpage a => Jit.cacheclearpage b a

/-- One turn of whichever loop `arm_exec` is in. -/
structure Turn where
  /-- `debugger_hook_active`, as this turn reads it. -/
  hookActive : Bool
  /-- The same, as `arm_exec` reads it again before it looks for a block. -/
  hookActiveAgain : Bool
  /-- What `debugger_instruction_hook` answers, if it is asked. -/
  halts : Bool
  /-- `getpccache` finds no memory here. -/
  fetchAborts : Bool
  opcode : UInt32
  /-- The clears that executing the instruction brings about. -/
  calls : List CacheCall
  /-- `blockend` as the instruction's function or the code generator leaves it. -/
  blockend : Bool
  /-- In generated code: control has come to the block's tail. -/
  atTail : Bool
  /-- In generated code: control has left through the epilogue. -/
  leaves : Bool
  /-- The processor afterwards. -/
  cpu : Cpu

/-- Where `arm_exec` is. -/
inductive Where
  | dispatch
  | interpret
  | generate
  | run
  deriving DecidableEq

structure Recompiler where
  blocks : Blocks
  cpu : Cpu
  pos : Where

/-- Something that happens: a turn, or, while `arm_exec` is between blocks or not running at all,
anything else that moves the processor or clears the cache. -/
inductive Event
  | turn (t : Turn)
  | outside (calls : List CacheCall) (cpu : Cpu)

def endsBlock (opcode : UInt32) : Bool :=
  opcode &&& 0x0c000000 = 0x0c000000 ∨
    (opcode &&& 0x0c000000 = 0 ∧ (opcode >>> 12) &&& 0xf = 15) ∨
    opcode &&& 0x0e108000 = 0x08108000 ∨
    (opcode &&& 0x0c100000 = 0x04100000 ∧ (opcode >>> 12) &&& 0xf = 15)

/-- `B` and `BL`, which end an interpreted block at once. -/
def isBranch (opcode : UInt32) : Bool := opcode &&& 0x0e000000 = 0x0a000000

/-- `jit_chain_next`: the slot of the block to go on with. -/
def jitChainNext (b : Blocks) (cpu : Cpu) : Option UInt32 :=
  if cpu.linecyc < 0 ∨ cpu.event &&& 0xff ≠ 0 then none
  else if b.codeblockpc (hash cpu.pc) ≠ cpu.pc ∨ b.codeblockword (hash cpu.pc) ≠ cpu.word32 then none
  else if numBlocks ≤ (b.codeblocknum (hash cpu.pc)).toNat then none
  else some (b.codeblocknum (hash cpu.pc))

def lookup (hookActive : Bool) (b : Blocks) (cpu : Cpu) : Option UInt32 :=
  if hookActive = false ∧ b.codeblockpc (hash cpu.pc) = cpu.pc ∧ b.codeblockword (hash cpu.pc) = cpu.word32 then
    some (b.codeblocknum (hash cpu.pc))
  else none

def Turn.ends (t : Turn) (always : Bool) : Bool :=
  t.blockend || always || t.cpu.pc &&& 0xffc = 0 || t.cpu.event &&& 0x40 ≠ 0

variable (j : Recompiler) (t : Turn)

def execute : Recompiler := { j with blocks := t.calls.foldl CacheCall.apply j.blocks, cpu := t.cpu }

/-- The head of `arm_exec`'s loop. -/
def dispatch : Recompiler :=
  if j.cpu.interpretOnly || !j.cpu.dcache || t.hookActive then
    if t.fetchAborts then execute j t else { j with pos := .interpret }
  else
    match lookup t.hookActiveAgain j.blocks j.cpu with
    | some _ => { j with pos := .run }
    | none =>
      if t.fetchAborts then execute j t
      else { j with blocks := initcodeblock j.blocks j.cpu.pc j.cpu.word32, pos := .generate }

def interpretTurn : Recompiler :=
  if t.hookActive && t.halts then { j with pos := .dispatch }
  else if t.ends (isBranch t.opcode || endsBlock t.opcode) then { execute j t with pos := .dispatch }
  else execute j t

/-- One turn of the generating loop.  A halt returns from `arm_exec` at once, without `endblock`; an
instruction under the condition NV generates nothing but its step of the PC. -/
def generateTurn : Recompiler :=
  if t.hookActive && t.halts then { j with pos := .dispatch }
  else
    let j := execute { j with blocks := emit j.blocks t.opcode } t
    if t.ends (t.opcode >>> 28 ≠ 0xf && endsBlock t.opcode) then
      { j with blocks := endblock j.blocks, pos := .dispatch }
    else j

/-- One turn of generated code: it leaves by the epilogue, or goes on from the tail to the block
`jit_chain_next` names, or is still under way. -/
def runTurn : Recompiler :=
  let j := execute j t
  if t.leaves then { j with pos := .dispatch }
  else if t.atTail then
    match jitChainNext j.blocks j.cpu with
    | some _ => j
    | none => { j with pos := .dispatch }
  else j

def step (j : Recompiler) : Event → Recompiler
  | .turn t =>
    match j.pos with
    | .dispatch => dispatch j t
    | .interpret => interpretTurn j t
    | .generate => generateTurn j t
    | .run => runTurn j t
  | .outside calls cpu =>
    match j.pos with
    | .dispatch => { j with blocks := calls.foldl CacheCall.apply j.blocks, cpu := cpu }
    | _ => j

/-- A block selected for running: the PC and word size it was looked up for, and the code found in
its slot. -/
structure Selected where
  pc : UInt32
  word32 : Bool
  code : Code
  deriving DecidableEq

/-- The block, if any, that the dispatcher or `jit_chain_next` selects in a step. -/
def selects (j : Recompiler) : Event → Option Selected
  | .turn t =>
    match j.pos with
    | .dispatch =>
      if j.cpu.interpretOnly || !j.cpu.dcache || t.hookActive then none
      else (lookup t.hookActiveAgain j.blocks j.cpu).map fun slot =>
        ⟨j.cpu.pc, j.cpu.word32, j.blocks.rcodeblock slot⟩
    | .run =>
      let j := execute j t
      if t.leaves || !t.atTail then none
      else (jitChainNext j.blocks j.cpu).map fun slot =>
        ⟨j.cpu.pc, j.cpu.word32, j.blocks.rcodeblock slot⟩
    | _ => none
  | .outside .. => none

/-- **The property.**  The code selected was generated for the PC and word size it was looked up for,
and its generation was completed. -/
def SelectsFinished (j : Recompiler) (e : Event) : Prop :=
  ∀ s, selects j e = some s → s.code.pc = s.pc ∧ s.code.word32 = s.word32 ∧ s.code.ended = true

/-- **The condition**: the debugger does not halt the machine while a block is being generated. -/
def NotCutShort (j : Recompiler) : Event → Prop
  | .turn t => j.pos = .generate → ¬ (t.hookActive = true ∧ t.halts = true)
  | .outside .. => True

/-! ## Entries and the code they name -/

/-- The entry `h` and the slot it names agree: each points to the other, and the code was started for
the entry's PC and word size. -/
structure Entry (b : Blocks) (h : UInt32) : Prop where
  filed : h = hash (b.codeblockpc h)
  slot : (b.codeblocknum h).toNat < numBlocks
  back : b.blocks (b.codeblocknum h) = h
  pc : (b.rcodeblock (b.codeblocknum h)).pc = b.codeblockpc h
  word32 : (b.rcodeblock (b.codeblocknum h)).word32 = b.codeblockword h

/-- Every block present has an entry. -/
def Sound (b : Blocks) : Prop := ∀ h, b.codeblockpc h ≠ noBlock → Entry b h

/-- Every entry that `p` picks out names finished code. -/
def DoneOn (p : UInt32 → Prop) (b : Blocks) : Prop :=
  ∀ h, b.codeblockpc h ≠ noBlock → p (b.codeblocknum h) →
    (b.rcodeblock (b.codeblocknum h)).ended = true

/-- Every block is finished. -/
def Done (b : Blocks) : Prop := DoneOn (fun _ => True) b

/-- Every block but the one being built is finished. -/
def DoneButLast (b : Blocks) : Prop := DoneOn (fun slot => slot ≠ b.blockpoint2) b

/-- **The invariant**: the tables agree, and only the block being generated is unfinished. -/
def Recompiler.Inv (j : Recompiler) : Prop :=
  Sound j.blocks ∧ if j.pos = .generate then DoneButLast j.blocks else Done j.blocks

section Clears

variable {b b' : Blocks}

/-- Blocks may have gone, and nothing else has changed. -/
structure OnlyThins (b b' : Blocks) : Prop where
  thins : Thins b b'
  num : b'.codeblocknum = b.codeblocknum
  word : b'.codeblockword = b.codeblockword
  blocks : b'.blocks = b.blocks
  code : b'.rcodeblock = b.rcodeblock
  last : b'.blockpoint2 = b.blockpoint2

lemma OnlyThins.refl (b : Blocks) : OnlyThins b b := ⟨Thins.refl b, rfl, rfl, rfl, rfl, rfl⟩

lemma onlyThins_cacheclearpage (b : Blocks) (a : UInt32) : OnlyThins b (cacheclearpage b a) := by
  cases hp : b.codeblockpresent (a &&& 0xffff) with
  | false =>
    rw [cacheclearpage_absent hp]
    exact OnlyThins.refl b
  | true =>
    refine cacheclearpage_inv (I := OnlyThins b) hp (fun b' i h => ?_) ⟨Thins.refl b, rfl, rfl, rfl,
      rfl, rfl⟩
    unfold clearSlot
    split
    · exact ⟨h.thins.update i, h.num, h.word, h.blocks, h.code, h.last⟩
    · exact h

lemma Sound.thins (hb : Sound b) (ht : OnlyThins b b') : Sound b' := by
  intro h hh
  have hpc := ht.thins.eq hh
  obtain ⟨hfiled, hslot, hback, hcode, hword⟩ := hb h (hpc ▸ hh)
  constructor
  · rwa [hpc]
  · rwa [ht.num]
  · rwa [ht.blocks, ht.num]
  · rwa [ht.code, ht.num, hpc]
  · rwa [ht.code, ht.num, ht.word]

lemma DoneOn.thins {p : UInt32 → Prop} (hb : DoneOn p b) (ht : OnlyThins b b') : DoneOn p b' := by
  intro h hh hslot
  rw [ht.code, ht.num]
  rw [ht.num] at hslot
  exact hb h (ht.thins.eq hh ▸ hh) hslot

lemma dropEntry_blocks (slot : UInt32) : (dropEntry b slot).blocks = b.blocks := by
  unfold dropEntry
  split <;> rfl

lemma dropEntry_own {s l : UInt32} (h : b.blocks s = hash l) :
    (dropEntry b s).codeblockpc (hash l) = noBlock := by
  simp [dropEntry, h, hash_ne_noBlock, hash_and]

lemma resetcodeblocks_empty (hb : Sound b) (h : UInt32) :
    (resetcodeblocks b).codeblockpc h = noBlock := by
  by_cases hh : b.codeblockpc h = noBlock
  · rcases thins_resetcodeblocks b h with hgone | hsame
    · exact hgone
    · rw [hsame, hh]
  · obtain ⟨hfiled, hslot, hback, -, -⟩ := hb h hh
    have hkeep : ∀ (b' : Blocks) slot, b'.codeblockpc h = noBlock →
        (resetSlot b' slot).codeblockpc h = noBlock := by
      intro b' slot hgone
      rcases ((Thins.refl b').dropEntry slot) h with hnow | hsame
      · exact hnow
      · exact hsame.trans hgone
    refine resetcodeblocks_reaches (I := fun b' => b'.codeblockpc h = noBlock)
      (J := fun b' => b'.blocks (b.codeblocknum h) = h ∨ b'.codeblockpc h = noBlock)
      hslot ?_ hkeep ?_ (Or.inl hback)
    · rintro b' slot (hnamed | hgone)
      · by_cases hown : b.codeblocknum h = slot
        · right
          have hgone := dropEntry_own (b := b') (s := slot) (hown ▸ hnamed.trans hfiled)
          rwa [← hfiled] at hgone
        · left
          simp only [resetSlot, Function.update_of_ne hown, dropEntry_blocks]
          exact hnamed
      · exact Or.inr (hkeep b' slot hgone)
    · rintro b' (hnamed | hgone)
      · rw [UInt32.ofNat_toNat]
        have hgone := dropEntry_own (b := b') (hnamed.trans hfiled)
        rwa [← hfiled] at hgone
      · exact hkeep b' _ hgone

lemma sound_of_empty (h : ∀ h, b.codeblockpc h = noBlock) : Sound b := fun i hi => absurd (h i) hi

lemma done_of_empty {p : UInt32 → Prop} (h : ∀ h, b.codeblockpc h = noBlock) : DoneOn p b :=
  fun i hi => absurd (h i) hi

/-- **A clear keeps the tables in agreement** and unfinished code out of them. -/
lemma call_inv {p : UInt32 → Prop} (hb : Sound b) (hd : DoneOn p b) (call : CacheCall) :
    Sound (call.apply b) ∧ DoneOn p (call.apply b) := by
  cases call with
  | resetcodeblocks =>
    rw [CacheCall.apply]
    exact ⟨sound_of_empty (resetcodeblocks_empty hb), done_of_empty (resetcodeblocks_empty hb)⟩
  | cacheclearpage a =>
    have ht := onlyThins_cacheclearpage b a
    exact ⟨hb.thins ht, hd.thins ht⟩

lemma resetcodeblocks_last (b : Blocks) : (resetcodeblocks b).blockpoint2 = b.blockpoint2 := by
  refine resetcodeblocks_inv (I := fun b' => b'.blockpoint2 = b.blockpoint2) (fun b' slot h => ?_) rfl
  unfold resetSlot dropEntry
  split <;> exact h

lemma call_last (call : CacheCall) : (call.apply b).blockpoint2 = b.blockpoint2 := by
  cases call with
  | resetcodeblocks => rw [CacheCall.apply, resetcodeblocks_last]
  | cacheclearpage a => exact (onlyThins_cacheclearpage b a).last

lemma calls_inv {p : UInt32 → Prop} (calls : List CacheCall) (hb : Sound b) (hd : DoneOn p b) :
    Sound (calls.foldl CacheCall.apply b) ∧ DoneOn p (calls.foldl CacheCall.apply b) := by
  induction calls generalizing b with
  | nil => exact ⟨hb, hd⟩
  | cons call calls ih =>
    obtain ⟨hb', hd'⟩ := call_inv hb hd call
    exact ih hb' hd'

lemma calls_last (calls : List CacheCall) (b : Blocks) :
    (calls.foldl CacheCall.apply b).blockpoint2 = b.blockpoint2 := by
  induction calls generalizing b with
  | nil => rfl
  | cons call calls ih => exact (ih (call.apply b)).trans (call_last call)

end Clears

/-! ## Generation -/

section Generate

variable {b : Blocks}

/-- The slot `initcodeblock` takes. -/
def nextSlot (b : Blocks) : UInt32 := (b.blockpoint + 1) &&& 0x3ff

lemma nextSlot_lt (b : Blocks) : (nextSlot b).toNat < numBlocks := by
  rw [nextSlot, UInt32.toNat_and, show (0x3ff : UInt32).toNat = 2 ^ 10 - 1 from rfl,
    Nat.and_two_pow_sub_one_eq_mod]
  exact Nat.mod_lt _ (by decide)

lemma initcodeblock_old (hb : Sound b) (l : UInt32) (word32 : Bool) {h : UInt32} (hne : h ≠ hash l)
    (hh : (initcodeblock b l word32).codeblockpc h ≠ noBlock) :
    b.codeblockpc h ≠ noBlock ∧ b.codeblocknum h ≠ nextSlot b ∧
      (initcodeblock b l word32).codeblockpc h = b.codeblockpc h ∧
      (initcodeblock b l word32).codeblocknum h = b.codeblocknum h ∧
      (initcodeblock b l word32).codeblockword h = b.codeblockword h := by
  have hold : (initcodeblock b l word32).codeblockpc h = b.codeblockpc h := by
    rcases initcodeblock_cases l word32 hh with ⟨heq, -⟩ | hold
    · exact absurd heq hne
    · exact hold
  have hpc : b.codeblockpc h ≠ noBlock := hold ▸ hh
  obtain ⟨hfiled, -, hback, -, -⟩ := hb h hpc
  -- Had the entry named the slot that is taken, the slot would name the entry, and it would be gone.
  have hslot : b.codeblocknum h ≠ nextSlot b := by
    intro hslot
    have hgone := dropEntry_own (b := { b with
      codeblockpresent := Function.update b.codeblockpresent ((l >>> 12) &&& 0xffff) true
      blockpoint := nextSlot b }) (s := nextSlot b) ((hslot ▸ hback).trans hfiled)
    rw [← hfiled] at hgone
    refine hh ?_
    simp only [initcodeblock, Function.update_of_ne hne]
    exact hgone
  refine ⟨hpc, hslot, hold, ?_, ?_⟩
  · simp only [initcodeblock, dropEntry, Function.update_of_ne hne]
    split
    · rename_i hnamed
      have hother : h ≠ b.blocks (nextSlot b) &&& 0x7fff := by
        intro heq
        refine hh ?_
        simp only [initcodeblock, dropEntry, Function.update_of_ne hne]
        rw [if_pos hnamed]
        exact heq ▸ Function.update_self ..
      exact Function.update_of_ne hother ..
    · rfl
  · simp only [initcodeblock, dropEntry, Function.update_of_ne hne]
    split <;> rfl

lemma initcodeblock_new (b : Blocks) (l : UInt32) (word32 : Bool) :
    (initcodeblock b l word32).codeblocknum (hash l) = nextSlot b := by
  simp only [initcodeblock, Function.update_self, dropEntry]
  split <;> rfl

lemma initcodeblock_last (b : Blocks) (l : UInt32) (word32 : Bool) :
    (initcodeblock b l word32).blockpoint2 = nextSlot b := by
  simp only [initcodeblock, dropEntry]
  split <;> rfl

lemma initcodeblock_blocks (b : Blocks) (l : UInt32) (word32 : Bool) :
    (initcodeblock b l word32).blocks = Function.update b.blocks (nextSlot b) (hash l) := by
  simp only [initcodeblock, dropEntry]
  split <;> rfl

lemma initcodeblock_code (b : Blocks) (l : UInt32) (word32 : Bool) :
    (initcodeblock b l word32).rcodeblock =
      Function.update b.rcodeblock (nextSlot b) ⟨l, word32, [], false⟩ := by
  simp only [initcodeblock, dropEntry]
  split <;> rfl

lemma initcodeblock_pc (b : Blocks) (l : UInt32) (word32 : Bool) :
    (initcodeblock b l word32).codeblockpc (hash l) = l := by
  simp only [initcodeblock, Function.update_self]

lemma initcodeblock_word (b : Blocks) (l : UInt32) (word32 : Bool) :
    (initcodeblock b l word32).codeblockword (hash l) = word32 := by
  simp only [initcodeblock, Function.update_self]

lemma Sound.initcodeblock (hb : Sound b) (l : UInt32) (word32 : Bool) :
    Sound (Jit.initcodeblock b l word32) := by
  intro h hh
  by_cases hne : h = hash l
  · subst hne
    constructor
    · rw [initcodeblock_pc]
    · rw [initcodeblock_new]
      exact nextSlot_lt b
    · rw [initcodeblock_new, initcodeblock_blocks, Function.update_self]
    · rw [initcodeblock_new, initcodeblock_code, Function.update_self, initcodeblock_pc]
    · rw [initcodeblock_new, initcodeblock_code, Function.update_self, initcodeblock_word]
  · obtain ⟨hpc, hslot, hpc', hnum, hword⟩ := initcodeblock_old hb l word32 hne hh
    obtain ⟨hfiled, hlt, hback, hcode, hcodeword⟩ := hb h hpc
    constructor
    · rwa [hpc']
    · rwa [hnum]
    · rwa [hnum, initcodeblock_blocks, Function.update_of_ne hslot]
    · rwa [hnum, hpc', initcodeblock_code, Function.update_of_ne hslot]
    · rwa [hnum, hword, initcodeblock_code, Function.update_of_ne hslot]

lemma Done.initcodeblock (hs : Sound b) (hb : Done b) (l : UInt32) (word32 : Bool) :
    DoneButLast (Jit.initcodeblock b l word32) := by
  intro h hh hslot
  rw [initcodeblock_last] at hslot
  by_cases hne : h = hash l
  · subst hne
    exact absurd (initcodeblock_new b l word32) hslot
  · obtain ⟨hpc, hold, -, hnum, -⟩ := initcodeblock_old hs l word32 hne hh
    rw [hnum, initcodeblock_code, Function.update_of_ne hold]
    exact hb h hpc trivial

lemma Sound.recode (hb : Sound b) {code : UInt32 → Code}
    (hcode : ∀ slot, (code slot).pc = (b.rcodeblock slot).pc ∧
      (code slot).word32 = (b.rcodeblock slot).word32) : Sound { b with rcodeblock := code } := by
  intro h hh
  obtain ⟨hfiled, hlt, hback, hpc, hword⟩ := hb h hh
  exact ⟨hfiled, hlt, hback, (hcode _).1.trans hpc, (hcode _).2.trans hword⟩

lemma Sound.emit (hb : Sound b) (opcode : UInt32) : Sound (Jit.emit b opcode) := by
  refine hb.recode fun slot => ?_
  by_cases hslot : slot = b.blockpoint2
  · simp [hslot]
  · simp [hslot]

lemma Sound.endblock (hb : Sound b) : Sound (Jit.endblock b) := by
  refine hb.recode fun slot => ?_
  by_cases hslot : slot = b.blockpoint2
  · simp [hslot]
  · simp [hslot]

lemma DoneButLast.emit (hb : DoneButLast b) (opcode : UInt32) : DoneButLast (Jit.emit b opcode) := by
  intro h hh hslot
  have hslot' : b.codeblocknum h ≠ b.blockpoint2 := hslot
  change (Function.update b.rcodeblock b.blockpoint2 _ (b.codeblocknum h)).ended = true
  rw [Function.update_of_ne hslot']
  exact hb h hh hslot'

lemma DoneButLast.endblock (hb : DoneButLast b) : Done (Jit.endblock b) := by
  intro h hh _
  change (Function.update b.rcodeblock b.blockpoint2 _ (b.codeblocknum h)).ended = true
  by_cases hslot : b.codeblocknum h = b.blockpoint2
  · rw [hslot, Function.update_self]
  · rw [Function.update_of_ne hslot]
    exact hb h hh hslot

end Generate

/-! ## Turns -/

section Turns

variable {j : Recompiler} {t : Turn}

lemma execute_done (hs : Sound j.blocks) (hd : Done j.blocks) :
    Sound (execute j t).blocks ∧ Done (execute j t).blocks := calls_inv t.calls hs hd

lemma execute_doneButLast (hs : Sound j.blocks) (hd : DoneButLast j.blocks) :
    Sound (execute j t).blocks ∧ DoneButLast (execute j t).blocks := by
  have hboth := calls_inv t.calls hs hd
  refine ⟨hboth.1, ?_⟩
  unfold DoneButLast
  simp only [execute, calls_last]
  exact hboth.2

lemma inv_of_done {pos : Where} {b : Blocks} {cpu : Cpu} (hpos : pos ≠ .generate)
    (h : Sound b ∧ Done b) : Recompiler.Inv ⟨b, cpu, pos⟩ := by
  refine ⟨h.1, ?_⟩
  rw [if_neg hpos]
  exact h.2

lemma Recompiler.Inv.done (h : j.Inv) (hpos : j.pos ≠ .generate) : Done j.blocks := by
  have hd := h.2
  rwa [if_neg hpos] at hd

lemma Recompiler.Inv.dispatch (h : j.Inv) (hpos : j.pos = .dispatch) : (Jit.dispatch j t).Inv := by
  have hd := h.done (by rw [hpos]; decide)
  have hexec : (execute j t).Inv := inv_of_done (by rw [hpos]; decide) (execute_done h.1 hd)
  unfold Jit.dispatch
  split
  · split
    · exact hexec
    · exact inv_of_done (by decide) ⟨h.1, hd⟩
  · split
    · exact inv_of_done (by decide) ⟨h.1, hd⟩
    · split
      · exact hexec
      · exact ⟨h.1.initcodeblock _ _, Done.initcodeblock h.1 hd _ _⟩

lemma Recompiler.Inv.interpretTurn (h : j.Inv) (hpos : j.pos = .interpret) :
    (Jit.interpretTurn j t).Inv := by
  have hd := h.done (by rw [hpos]; decide)
  have hexec := execute_done (t := t) h.1 hd
  unfold Jit.interpretTurn
  split
  · exact inv_of_done (by decide) ⟨h.1, hd⟩
  · split
    · exact inv_of_done (by decide) hexec
    · exact inv_of_done (by rw [hpos]; decide) hexec

lemma Recompiler.Inv.runTurn (h : j.Inv) (hpos : j.pos = .run) : (Jit.runTurn j t).Inv := by
  have hd := h.done (by rw [hpos]; decide)
  have hexec := execute_done (t := t) h.1 hd
  have hstay : (execute j t).Inv := inv_of_done (by rw [hpos]; decide) hexec
  simp only [Jit.runTurn]
  split
  · exact inv_of_done (by decide) hexec
  · split
    · split
      · exact hstay
      · exact inv_of_done (by decide) hexec
    · exact hstay

lemma Recompiler.Inv.generateTurn (h : j.Inv) (hpos : j.pos = .generate)
    (hcut : ¬ (t.hookActive = true ∧ t.halts = true)) : (Jit.generateTurn j t).Inv := by
  have hd : DoneButLast j.blocks := by
    have hd := h.2
    rwa [if_pos hpos] at hd
  have hexec := execute_doneButLast (j := { j with blocks := emit j.blocks t.opcode }) (t := t)
    (h.1.emit t.opcode) (hd.emit t.opcode)
  simp only [Jit.generateTurn]
  rw [if_neg (by simpa using hcut)]
  split
  · exact inv_of_done (by decide) ⟨hexec.1.endblock, hexec.2.endblock⟩
  · refine ⟨hexec.1, ?_⟩
    rw [if_pos (by exact hpos)]
    exact hexec.2

/-- **One step.** -/
lemma Recompiler.Inv.step (h : j.Inv) (e : Event) (hcut : NotCutShort j e) : (Jit.step j e).Inv := by
  cases e with
  | turn t =>
    simp only [Jit.step]
    split
    · rename_i hpos
      exact h.dispatch hpos
    · rename_i hpos
      exact h.interpretTurn hpos
    · rename_i hpos
      exact h.generateTurn hpos (hcut hpos)
    · rename_i hpos
      exact h.runTurn hpos
  | outside calls cpu =>
    simp only [Jit.step]
    split
    · rename_i hpos
      have hd := h.done (by rw [hpos]; decide)
      exact inv_of_done (by rw [hpos]; decide) (calls_inv calls h.1 hd)
    · exact h

lemma pc_ne_noBlock (cpu : Cpu) : cpu.pc ≠ noBlock := by
  have hand : ∀ a m : UInt32, m &&& 1 = 0 → a &&& m ≠ noBlock := by
    intro a m hm heq
    have h1 : (a &&& m) &&& 1 = noBlock &&& 1 := congrArg (· &&& 1) heq
    rw [UInt32.and_assoc, hm, UInt32.and_zero] at h1
    exact absurd h1 (by decide)
  unfold Cpu.pc Cpu.r15Mask
  split
  · exact hand _ _ (by decide)
  · exact hand _ _ (by decide)

lemma recorded_finished {b : Blocks} (hs : Sound b) (hd : Done b) {cpu : Cpu}
    (hpc : b.codeblockpc (hash cpu.pc) = cpu.pc)
    (hword : b.codeblockword (hash cpu.pc) = cpu.word32) :
    (b.rcodeblock (b.codeblocknum (hash cpu.pc))).pc = cpu.pc ∧
      (b.rcodeblock (b.codeblocknum (hash cpu.pc))).word32 = cpu.word32 ∧
      (b.rcodeblock (b.codeblocknum (hash cpu.pc))).ended = true := by
  have hne : b.codeblockpc (hash cpu.pc) ≠ noBlock := by
    rw [hpc]
    exact pc_ne_noBlock cpu
  have hentry := hs _ hne
  exact ⟨hentry.pc.trans hpc, hentry.word32.trans hword, hd _ hne trivial⟩

lemma lookup_some {hookActive : Bool} {b : Blocks} {cpu : Cpu} {slot : UInt32}
    (h : lookup hookActive b cpu = some slot) :
    b.codeblockpc (hash cpu.pc) = cpu.pc ∧ b.codeblockword (hash cpu.pc) = cpu.word32 ∧
      slot = b.codeblocknum (hash cpu.pc) := by
  unfold lookup at h
  split at h
  · rename_i hfound
    exact ⟨hfound.2.1, hfound.2.2, (Option.some.inj h).symm⟩
  · cases h

lemma jitChainNext_some {b : Blocks} {cpu : Cpu} {slot : UInt32}
    (h : jitChainNext b cpu = some slot) :
    b.codeblockpc (hash cpu.pc) = cpu.pc ∧ b.codeblockword (hash cpu.pc) = cpu.word32 ∧
      slot = b.codeblocknum (hash cpu.pc) := by
  unfold jitChainNext at h
  split at h
  · cases h
  · split at h
    · cases h
    · rename_i hfound
      rw [not_or, not_not, not_not] at hfound
      split at h
      · cases h
      · exact ⟨hfound.1, hfound.2, (Option.some.inj h).symm⟩

/-- **What one step selects is finished**, whatever the step. -/
lemma Recompiler.Inv.selectsFinished (h : j.Inv) (e : Event) : SelectsFinished j e := by
  intro s hs
  cases e with
  | outside calls cpu => cases hs
  | turn t =>
    simp only [selects] at hs
    split at hs
    · rename_i hpos
      split at hs
      · cases hs
      · obtain ⟨slot, hslot, rfl⟩ := Option.map_eq_some_iff.mp hs
        obtain ⟨hpc, hword, rfl⟩ := lookup_some hslot
        exact recorded_finished h.1 (h.done (by rw [hpos]; decide)) hpc hword
    · rename_i hpos
      split at hs
      · cases hs
      · obtain ⟨slot, hslot, rfl⟩ := Option.map_eq_some_iff.mp hs
        obtain ⟨hpc, hword, rfl⟩ := jitChainNext_some hslot
        obtain ⟨hsound, hdone⟩ := execute_done (t := t) h.1 (h.done (by rw [hpos]; decide))
        exact recorded_finished hsound hdone hpc hword
    · cases hs

end Turns

def started (cpu : Cpu) : Recompiler := ⟨initcodeblocks, cpu, .dispatch⟩

lemma inv_started (cpu : Cpu) : (started cpu).Inv :=
  inv_of_done (by decide) ⟨sound_of_empty fun _ => rfl, done_of_empty fun _ => rfl⟩

/-- **Only finished blocks are run.**  In every run in which the debugger does not halt the machine
while a block is being generated, whatever the dispatcher or `jit_chain_next` selects was generated
for the PC and the word size it was looked up for, to the end. -/
theorem selected_finished (cpu : Cpu) (es : List Event)
    (h : Runs.Along step NotCutShort (started cpu) es) :
    Runs.Along step SelectsFinished (started cpu) es :=
  Runs.along_of_inv (I := Recompiler.Inv) (fun _ e hj hcut => hj.step e hcut)
    (fun _ e hj _ => hj.selectsFinished e) es _ (inv_started cpu) h

def cpuAt (r15 : UInt32) : Cpu := ⟨r15, true, 0, false, true, 256⟩

def plainTurn (opcode : UInt32) (blockend : Bool) (r15 : UInt32) : Turn :=
  { hookActive := false, hookActiveAgain := false, halts := false, fetchAborts := false, opcode, calls := [], blockend
    atTail := false, leaves := false, cpu := cpuAt r15 }

/-- A branch to itself at `0x8000`: the block is generated, ended, and selected. -/
def branchLoop : List Event :=
  [.turn (plainTurn 0xeafffffe false 0x8008), .turn (plainTurn 0xeafffffe true 0x8008),
    .turn (plainTurn 0xeafffffe false 0x8008)]

theorem selected_finished_branch :
    Runs.Along step NotCutShort (started (cpuAt 0x8008)) branchLoop ∧
      Runs.Along step SelectsFinished (started (cpuAt 0x8008)) branchLoop := by
  have hcut : Runs.Along step NotCutShort (started (cpuAt 0x8008)) branchLoop := by
    simp [branchLoop, NotCutShort, plainTurn]
  exact ⟨hcut, selected_finished (cpuAt 0x8008) branchLoop hcut⟩

/-- `MOV R0, R0` at `0x8000` is translated and executed; the debugger is then asked to pause and halts
the machine at `0x8004`.  It resumes there, and the branch back to `0x8000` is translated and ended. -/
def haltedLoop : List Event :=
  [.turn (plainTurn 0xe1a00000 false 0x8008), .turn (plainTurn 0xe1a00000 false 0x800c),
    .turn { plainTurn 0xeafffffd false 0x800c with hookActive := true, halts := true },
    .turn (plainTurn 0xeafffffd false 0x800c), .turn (plainTurn 0xeafffffd true 0x8008)]

/-- **A halt in the middle of a block.**  At `0x8000` again, the dispatcher finds the block the halt
cut short. -/
theorem unfinished_selected :
    ¬ ∀ (cpu : Cpu) (es : List Event), Runs.Along step SelectsFinished (started cpu) es := by
  intro hall
  have hrun := hall (cpuAt 0x8008) (haltedLoop ++ [.turn (plainTurn 0xe1a00000 false 0x8008)])
  rw [Runs.along_append, Runs.along_cons] at hrun
  have hended := hrun.2.1 ⟨0x8000, true, 0x8000, true, [0xe1a00000], false⟩ (by decide +kernel)
  exact Bool.false_ne_true hended.2.2

end RpcEmu.Jit
