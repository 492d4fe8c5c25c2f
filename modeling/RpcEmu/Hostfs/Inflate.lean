import RpcEmu.Hostfs.Extract
import RpcEmu.Lib.Traced

/-!
# Inflating a member of an archive

`inflate_stream` of `unzip.c`, with all that it calls: the bits of the input, the tables that are built from code
lengths, and the three kinds of block.  What is traced is every index, and every place in the input at which the
decoder has stood.  Its loops are given rounds to run in.
-/

namespace RpcEmu.Hostfs

open Traced

/-- `HuffmanEntry`. -/
structure HuffmanEntry where
  symbol : UInt16
  bits : UInt8

/-- `HuffmanTable`.  Where no symbol has a code there is no table. -/
structure HuffmanTable where
  table : Option (Nat → HuffmanEntry)
  maxBits : Nat
  size : Nat

/-- `Bitstream`, but for the data.  An `int` holds `nbits`, and `UNZIP_MAX_ENTRY_SIZE` keeps it in range. -/
structure Bitstream where
  pos : Nat
  bits : UInt32
  nbits : Int

inductive Touch
  /-- `in[i]`. -/
  | input (i : Nat)
  /-- `bl_count[i]` or `next_code[i]`. -/
  | count (i : Nat)
  /-- `table[i]`, of that many entries. -/
  | table (size i : Nat)
  /-- `deflate_codelen_order[i]` or `codelen_lengths[i]`. -/
  | codelen (i : Nat)
  /-- `lengths[i]`. -/
  | lengths (i : Nat)
  /-- `deflate_fixed_litlen[i]`. -/
  | fixedLitlen (i : Nat)
  /-- `deflate_fixed_dist[i]`. -/
  | fixedDist (i : Nat)
  /-- `deflate_len_base[i]` and `deflate_len_extra[i]`. -/
  | lenBase (i : Nat)
  /-- `deflate_dist_base[i]` and `deflate_dist_extra[i]`. -/
  | distBase (i : Nat)
  /-- `out[i]`, to be copied. -/
  | copied (i : Nat)
  /-- A byte is put at `out[i]`. -/
  | written (i : Nat)
  /-- A code is taken: the entry under the window, and the bits before and after. -/
  | took (entry : HuffmanEntry) (bs bs' : Bitstream)
  /-- The bits after any other move. -/
  | stands (bs : Bitstream)

/-- `DEFLATE_MAX_BITS`. -/
def deflateMaxBits : Nat := 15

/-- `DEFLATE_MAX_LITLEN`. -/
def deflateMaxLitlen : Nat := 288

/-- `DEFLATE_MAX_DIST`. -/
def deflateMaxDist : Nat := 32

/-- `DEFLATE_MAX_CODELEN`. -/
def deflateMaxCodelen : Nat := 19

def deflateFixedLitlen (i : Nat) : UInt8 := if i < 144 then 8 else if i < 256 then 9 else if i < 280 then 7 else 8

def deflateFixedDist (_ : Nat) : UInt8 := 5

def deflateCodelenOrder : List Nat := [16, 17, 18, 0, 8, 7, 9, 6, 10, 5, 11, 4, 12, 3, 13, 2, 14, 1, 15]

def deflateLenBase : List Nat :=
  [3, 4, 5, 6, 7, 8, 9, 10, 11, 13, 15, 17, 19, 23, 27, 31,
    35, 43, 51, 59, 67, 83, 99, 115, 131, 163, 195, 227, 258]

def deflateLenExtra : List Nat :=
  [0, 0, 0, 0, 0, 0, 0, 0, 1, 1, 1, 1, 2, 2, 2, 2, 3, 3, 3, 3, 4, 4, 4, 4, 5, 5, 5, 5, 0]

def deflateDistBase : List Nat :=
  [1, 2, 3, 4, 5, 7, 9, 13, 17, 25, 33, 49, 65, 97, 129, 193,
    257, 385, 513, 769, 1025, 1537, 2049, 3073, 4097, 6145, 8193, 12289, 16385, 24577]

def deflateDistExtra : List Nat :=
  [0, 0, 0, 0, 1, 1, 2, 2, 3, 3, 4, 4, 5, 5, 6, 6, 7, 7, 8, 8, 9, 9, 10, 10, 11, 11, 12, 12, 13, 13]

/-! ## The bits of the input -/

section Bits

variable (data : List UInt8)

/-- `bs_init`. -/
def bsInit : Bitstream where
  pos := 0
  bits := 0
  nbits := 0

/-- The loop of `bs_ensure_bits`, with the bytes from `pos` on. -/
def ensureFrom (n : Int) : List UInt8 → Bitstream → Traced Touch (Bool × Bitstream)
  | rest, bs =>
    if n ≤ bs.nbits then pure (true, bs)
    else
      match rest with
      | [] => pure (false, bs)
      | b :: rest => do
        note (.input bs.pos)
        let bs := { bs with
          pos := bs.pos + 1, bits := bs.bits ||| b.toUInt32 <<< UInt32.ofNat bs.nbits.toNat, nbits := bs.nbits + 8 }
        note (.stands bs)
        ensureFrom n rest bs

/-- `bs_ensure_bits`. -/
def bsEnsureBits (bs : Bitstream) (n : Nat) : Traced Touch (Bool × Bitstream) := ensureFrom n (data.drop bs.pos) bs

/-- `bs_peek_bits`. -/
def bsPeekBits (bs : Bitstream) (n : Nat) : UInt32 := bs.bits &&& (1 <<< UInt32.ofNat n - 1)

/-- `bs_drop_bits`. -/
def bsDropBits (bs : Bitstream) (n : Nat) : Bitstream :=
  { bs with bits := bs.bits >>> UInt32.ofNat n, nbits := bs.nbits - n }

/-- `bs_read_bits`: none where it returns -1. -/
def bsReadBits (bs : Bitstream) (n : Nat) : Traced Touch (Option Nat × Bitstream) := do
  let (enough, bs) ← bsEnsureBits data bs n
  if enough = false then pure (none, bs)
  else
    let val := bsPeekBits bs n
    let bs := bsDropBits bs n
    note (.stands bs)
    pure (some val.toNat, bs)

/-! ## The tables -/

/-- `bl_count` and `max_bits`. -/
def countLengths (touch : Nat → Touch) (lengths : Nat → UInt8) (count : Nat) : Traced Touch ((Nat → Nat) × Nat) :=
  (List.range count).foldlM (fun (blCount, maxBits) i => do
    note (touch i)
    let len := (lengths i).toNat
    if 0 < len then
      note (.count len)
      pure (Function.update blCount len (blCount len + 1), max maxBits len)
    else pure (blCount, maxBits)) (fun _ => 0, 0)

/-- `next_code` and `code`, for each number of bits. -/
def firstCodes (blCount : Nat → Nat) (maxBits : Nat) : Traced Touch ((Nat → Nat) × Nat) :=
  (List.range' 1 maxBits).foldlM (fun (nextCode, code) bits => do
    note (.count (bits - 1))
    let code := (code + blCount (bits - 1)) <<< 1
    note (.count bits)
    pure (Function.update nextCode bits code, code)) (fun _ => 0, 0)

/-- `rev`, of a code of that length. -/
def reversed (code len : Nat) : Nat := (List.range len).foldl (fun rev bits => rev <<< 1 ||| (code >>> bits &&& 1)) 0

def fillTable (maxBits rev len : Nat) (entry : HuffmanEntry) (table : Nat → HuffmanEntry) :
    Traced Touch (Nat → HuffmanEntry) :=
  (List.range (1 <<< (maxBits - len))).foldlM (fun table j => do
    let idx := rev ||| j <<< len
    note (.table (1 <<< maxBits) idx)
    pure (Function.update table idx entry)) table

/-- The loop of `huffman_build` that gives each symbol its code. -/
def assignCodes (touch : Nat → Touch) (lengths : Nat → UInt8) (count maxBits : Nat) (nextCode : Nat → Nat) :
    Traced Touch ((Nat → HuffmanEntry) × (Nat → Nat)) :=
  (List.range count).foldlM (fun (table, nextCode) i => do
    note (touch i)
    let len := (lengths i).toNat
    if len = 0 then pure (table, nextCode)
    else
      note (.count len)
      let code := nextCode len
      let table ← fillTable maxBits (reversed code len) len ⟨UInt16.ofNat i, UInt8.ofNat len⟩ table
      pure (table, Function.update nextCode len (code + 1))) (fun _ => ⟨0, 0⟩, nextCode)

/-- `huffman_build`, where `calloc` grants what it is asked for or does not: none where it returns -1. -/
def huffmanBuild (touch : Nat → Touch) (granted : Bool) (lengths : Nat → UInt8) (count : Nat) :
    Traced Touch (Option HuffmanTable) := do
  let (blCount, maxBits) ← countLengths touch lengths count
  if maxBits = 0 then pure (some ⟨none, 0, 0⟩)
  else
    let (nextCode, _) ← firstCodes blCount maxBits
    if granted = false then pure none
    else
      let (table, _) ← assignCodes touch lengths count maxBits nextCode
      pure (some ⟨some table, maxBits, 1 <<< maxBits⟩)

/-- `huffman_decode`. -/
def huffmanDecode (ht : HuffmanTable) (bs : Bitstream) : Traced Touch (Option Nat × Bitstream) :=
  match ht.table with
  | none => pure (none, bs)
  | some table =>
    if ht.maxBits = 0 then pure (none, bs)
    else do
      let (enough, bs) ← bsEnsureBits data bs ht.maxBits
      if enough = false ∧ bs.nbits = 0 then pure (none, bs)
      else
        let idx := (bsPeekBits bs ht.maxBits).toNat
        note (.table ht.size idx)
        let entry := table idx
        if entry.bits = 0 then pure (none, bs)
        else
          note (.took entry bs (bsDropBits bs entry.bits.toNat))
          pure (some entry.symbol.toNat, bsDropBits bs entry.bits.toNat)

end Bits

/-! ## The blocks -/

section Blocks

/-- What `inflate_block` works on. -/
structure Decoding where
  bs : Bitstream
  out : Nat → UInt8
  pos : Nat

variable (data : List UInt8) (outSize : Nat)

def readExtra (bs : Bitstream) (base extra : Nat) : Traced Touch (Option Nat × Bitstream) :=
  if 0 < extra then do
    let (bits, bs) ← bsReadBits data bs extra
    pure (bits.map (base + ·), bs)
  else pure (some base, bs)

def copyMatch : Nat → Nat → Nat → (Nat → UInt8) → Traced Touch (Nat → UInt8)
  | 0, _, _, out => pure out
  | length + 1, src, pos, out => do
    note (.copied src)
    note (.written pos)
    copyMatch length (src + 1) (pos + 1) (Function.update out pos (out src))

/-- The body of the loop of `inflate_block`: whether the block is over with, and well. -/
def inflateSymbol (litlen dist : HuffmanTable) (d : Decoding) : Traced Touch (Decoding ⊕ Bool × Decoding) := do
  let (sym, bs) ← huffmanDecode data litlen d.bs
  let d := { d with bs }
  match sym with
  | none => pure (.inr (false, d))
  | some sym =>
    if sym < 256 then
      if outSize ≤ d.pos then pure (.inr (false, d))
      else
        note (.written d.pos)
        pure (.inl { d with out := Function.update d.out d.pos (UInt8.ofNat sym), pos := d.pos + 1 })
    else if sym = 256 then pure (.inr (true, d))
    else if 29 ≤ sym - 257 then pure (.inr (false, d))
    else
      note (.lenBase (sym - 257))
      let (length, bs) ← readExtra data d.bs (deflateLenBase.getD (sym - 257) 0) (deflateLenExtra.getD (sym - 257) 0)
      let d := { d with bs }
      match length with
      | none => pure (.inr (false, d))
      | some length =>
        let (distCode, bs) ← huffmanDecode data dist d.bs
        let d := { d with bs }
        match distCode with
        | none => pure (.inr (false, d))
        | some distCode =>
          if 30 ≤ distCode then pure (.inr (false, d))
          else
            note (.distBase distCode)
            let (distance, bs) ←
              readExtra data d.bs (deflateDistBase.getD distCode 0) (deflateDistExtra.getD distCode 0)
            let d := { d with bs }
            match distance with
            | none => pure (.inr (false, d))
            | some distance =>
              if d.pos < distance ∨ outSize < d.pos + length then pure (.inr (false, d))
              else
                let out ← copyMatch length (d.pos - distance) d.pos d.out
                pure (.inl { d with out, pos := d.pos + length })

/-- `inflate_block`. -/
def inflateBlock (fuel : Nat) (litlen dist : HuffmanTable) (d : Decoding) : Traced Touch (Option (Bool × Decoding)) :=
  loop (inflateSymbol data outSize litlen dist) fuel d

/-- The variables of `inflate_stream`, and how often it has asked for memory. -/
structure Inflation where
  bs : Bitstream
  out : Nat → UInt8
  outPos : Nat
  asked : Nat

abbrev Outcome := Option (Option UnzipError × Inflation)

/-- `memcpy` of a stored block. -/
def copyStored (pos outPos len : Nat) (out : Nat → UInt8) : Traced Touch (Nat → UInt8) where
  value i := if outPos ≤ i ∧ i < outPos + len then data.getD (pos + (i - outPos)) 0 else out i
  trace := (List.range len).flatMap fun k => [.input (pos + k), .written (outPos + k)]

/-- `read_le16` of the input. -/
def readLe16 (pos : Nat) : Traced Touch Nat where
  value := (data.getD pos 0).toNat + 256 * (data.getD (pos + 1) 0).toNat
  trace := [.input pos, .input (pos + 1)]

def storedBlock (s : Inflation) : Traced Touch Outcome := do
  let bs := { s.bs with bits := 0, nbits := 0 }
  note (.stands bs)
  if data.length < bs.pos + 4 then pure (some (some .inflate, { s with bs }))
  else
    let len ← readLe16 data bs.pos
    let nlen ← readLe16 data (bs.pos + 2)
    let bs := { bs with pos := bs.pos + 4 }
    note (.stands bs)
    if len ^^^ nlen ≠ 0xffff ∨ data.length < bs.pos + len ∨ outSize < s.outPos + len then
      pure (some (some .inflate, { s with bs }))
    else
      let out ← copyStored data bs.pos s.outPos len s.out
      let bs := { bs with pos := bs.pos + len }
      note (.stands bs)
      pure (some (none, { s with bs, out, outPos := s.outPos + len }))

variable (fuel : Nat) (grants : Nat → Bool)

def codedBlock (touchLitlen touchDist : Nat → Touch) (litlen dist : Nat → UInt8) (hlit hdist : Nat) (s : Inflation) :
    Traced Touch Outcome := do
  let htLitlen ← huffmanBuild touchLitlen (grants s.asked) litlen hlit
  match htLitlen with
  | none => pure (some (some .memory, { s with asked := s.asked + 1 }))
  | some htLitlen =>
    let htDist ← huffmanBuild touchDist (grants (s.asked + 1)) dist hdist
    let s := { s with asked := s.asked + 2 }
    match htDist with
    | none => pure (some (some .memory, s))
    | some htDist =>
      let done ← inflateBlock data outSize fuel htLitlen htDist ⟨s.bs, s.out, s.outPos⟩
      match done with
      | none => pure none
      | some (false, d) => pure (some (some .inflate, { s with bs := d.bs, out := d.out }))
      | some (true, d) => pure (some (none, { s with bs := d.bs, out := d.out, outPos := d.pos }))

def fixedBlock (s : Inflation) : Traced Touch Outcome :=
  codedBlock data outSize fuel grants .fixedLitlen .fixedDist deflateFixedLitlen deflateFixedDist deflateMaxLitlen
    deflateMaxDist s

/-- `codelen_lengths`, of which so many are to come: none where the input ends. -/
def readCodelens (i : Nat) : Nat → Bitstream → (Nat → UInt8) → Traced Touch (Option (Nat → UInt8) × Bitstream)
  | 0, bs, lengths => pure (some lengths, bs)
  | n + 1, bs, lengths => do
    let (cbits, bs) ← bsReadBits data bs 3
    match cbits with
    | none => pure (none, bs)
    | some cbits =>
      note (.codelen i)
      note (.codelen (deflateCodelenOrder.getD i 0))
      readCodelens (i + 1) n bs (Function.update lengths (deflateCodelenOrder.getD i 0) (UInt8.ofNat cbits))

def repeatLength (n : Nat) (len : UInt8) : Nat → Nat → (Nat → UInt8) → Traced Touch (Nat × (Nat → UInt8))
  | 0, i, lengths => pure (i, lengths)
  | times + 1, i, lengths =>
    if i < n then do
      note (.lengths i)
      repeatLength n len times (i + 1) (Function.update lengths i len)
    else pure (i, lengths)

structure Lengths where
  bs : Bitstream
  i : Nat
  lengths : Nat → UInt8

/-- The body of that loop, while `i < n`. -/
def readLength (codelen : HuffmanTable) (n : Nat) (l : Lengths) : Traced Touch (Lengths ⊕ Bool × Lengths) :=
  if n ≤ l.i then pure (.inr (true, l))
  else do
    let (sym, bs) ← huffmanDecode data codelen l.bs
    let l := { l with bs }
    match sym with
    | none => pure (.inr (false, l))
    | some sym =>
      if sym < 16 then
        note (.lengths l.i)
        pure (.inl { l with i := l.i + 1, lengths := Function.update l.lengths l.i (UInt8.ofNat sym) })
      else if sym = 16 then
        let (times, bs) ← bsReadBits data l.bs 2
        let l := { l with bs }
        match times with
        | none => pure (.inr (false, l))
        | some times =>
          if l.i = 0 then pure (.inr (false, l))
          else
            note (.lengths (l.i - 1))
            let (i, lengths) ← repeatLength n (l.lengths (l.i - 1)) (times + 3) l.i l.lengths
            pure (.inl { l with i, lengths })
      else if sym = 17 then
        let (times, bs) ← bsReadBits data l.bs 3
        let l := { l with bs }
        match times with
        | none => pure (.inr (false, l))
        | some times =>
          let (i, lengths) ← repeatLength n 0 (times + 3) l.i l.lengths
          pure (.inl { l with i, lengths })
      else if sym = 18 then
        let (times, bs) ← bsReadBits data l.bs 7
        let l := { l with bs }
        match times with
        | none => pure (.inr (false, l))
        | some times =>
          let (i, lengths) ← repeatLength n 0 (times + 11) l.i l.lengths
          pure (.inl { l with i, lengths })
      else pure (.inr (false, l))

/-- A block with codes of its own.  What `lengths` held before it is `garbage`. -/
def dynamicBlock (garbage : Nat → UInt8) (s : Inflation) : Traced Touch Outcome := do
  let (hlit, bs) ← bsReadBits data s.bs 5
  let (hdist, bs) ← bsReadBits data bs 5
  let (hclen, bs) ← bsReadBits data bs 4
  let s := { s with bs }
  match hlit, hdist, hclen with
  | some hlit, some hdist, some hclen =>
    let hlit := hlit + 257
    let hdist := hdist + 1
    let (codelens, bs) ← readCodelens data 0 (hclen + 4) s.bs fun _ => 0
    let s := { s with bs }
    match codelens with
    | none => pure (some (some .inflate, s))
    | some codelens =>
      let codelen ← huffmanBuild .codelen (grants s.asked) codelens deflateMaxCodelen
      let s := { s with asked := s.asked + 1 }
      match codelen with
      | none => pure (some (some .memory, s))
      | some codelen =>
        let done ← loop (readLength data codelen (hlit + hdist)) fuel ⟨s.bs, 0, garbage⟩
        match done with
        | none => pure none
        | some (false, l) => pure (some (some .inflate, { s with bs := l.bs }))
        | some (true, l) =>
          codedBlock data outSize fuel grants .lengths (fun i => .lengths (hlit + i)) l.lengths
            (fun i => l.lengths (hlit + i)) hlit hdist { s with bs := l.bs }
  | _, _, _ => pure (some (some .inflate, s))

/-- The body of the loop of `inflate_stream`. -/
def inflateRound (garbage : Nat → UInt8) (s : Inflation) : Traced Touch (Inflation ⊕ Outcome) := do
  let (bfinal, bs) ← bsReadBits data s.bs 1
  let (btype, bs) ← bsReadBits data bs 2
  let s := { s with bs }
  match bfinal, btype with
  | some bfinal, some btype =>
    let outcome ←
      (if btype = 0 then storedBlock data outSize s
      else if btype = 1 then fixedBlock data outSize fuel grants s
      else if btype = 2 then dynamicBlock data outSize fuel grants garbage s
      else pure (some (some .inflate, s)))
    match outcome with
    | some (none, s) => if bfinal = 0 then pure (.inl s) else pure (.inr (some (none, s)))
    | stopped => pure (.inr stopped)
  | _, _ => pure (.inr (some (some .inflate, s)))

/-- `inflate_stream`, into a buffer that holds `out`, with so many rounds for each of its loops. -/
def inflateStream (garbage out : Nat → UInt8) : Traced Touch Outcome := do
  let done ← loop (inflateRound data outSize fuel grants garbage) fuel ⟨bsInit, out, 0, 0⟩
  pure done.join

end Blocks

end RpcEmu.Hostfs
