import RpcEmu.Hostfs.Inflate

/-!
# Inflating what may be anything

Nothing is promised about the input of `inflate_stream`: its code lengths may make no code or too much of one, and
it may end anywhere.

* **Every index is in its array**, for every input and every size of the output: `inflate_bounded`.
* **It ends.**  Behind the end of the input a block is decoded from zeros, and is over when the output is full; the
  next block has no header.
* **The gap.**  `huffman_decode` asks only that there is a bit, not that there are as many as the code that it finds
  has: `inflate_within_iff`.
-/

namespace RpcEmu.Hostfs

open Traced

structure Progress where
  bs : Bitstream
  written : Nat

def Progress.next (g : Progress) : Touch → Progress
  | .took _ _ bs' => { g with bs := bs' }
  | .stands bs' => { g with bs := bs' }
  | .written _ => { g with written := g.written + 1 }
  | _ => g

/-- Every index is below the size of what it is an index of.  The output is written from its start on, and only what
has been written is copied. -/
def Touch.InBounds (inLen outSize written : Nat) : Touch → Prop
  | .input i => i < inLen
  | .count i => i < deflateMaxBits + 1
  | .table size i => i < size
  | .codelen i => i < deflateMaxCodelen
  | .lengths i => i < deflateMaxLitlen + deflateMaxDist
  | .fixedLitlen i => i < 288
  | .fixedDist i => i < 32
  | .lenBase i => i < 29
  | .distBase i => i < 30
  | .copied i => i < written
  | .written i => i = written ∧ i < outSize
  | .took _ _ _ => True
  | .stands _ => True

/-- No more bits have been dropped than were read. -/
def Bitstream.Within (bs : Bitstream) (inLen : Nat) : Prop := 0 ≤ bs.nbits ∧ 8 * (bs.pos : Int) - bs.nbits ≤ 8 * inLen

/-- What the touch does to the bits. -/
def Touch.Moves (inLen : Nat) (bs : Bitstream) : Touch → Prop
  | .took entry bs₁ bs' => bs₁ = bs ∧ bs' = bsDropBits bs entry.bits.toNat ∧ bs.pos ≤ inLen
  | .stands bs' => bs.Within inLen → bs'.Within inLen
  | _ => True

/-- The touch is in bounds, and takes the bits on. -/
def Touch.Allowed (inLen outSize : Nat) (g : Progress) (t : Touch) : Prop :=
  t.InBounds inLen outSize g.written ∧ t.Moves inLen g.bs

/-- A touch in bounds that is of neither the output nor the bits. -/
def Touch.Aside (inLen : Nat) : Touch → Prop
  | .copied _ => False
  | .written _ => False
  | .took _ _ _ => False
  | .stands _ => False
  | t => t.InBounds inLen 0 0

lemma Touch.Aside.allowed {inLen : Nat} (outSize : Nat) (g : Progress) {t : Touch} (h : t.Aside inLen) :
    Touch.Allowed inLen outSize g t ∧ g.next t = g := by
  cases t <;> first | exact h.elim | exact ⟨⟨h, trivial⟩, rfl⟩

/-! ## The tables -/

section Tables

variable {inLen : Nat} {touch : Nat → Touch} {lengths : Nat → UInt8} {count : Nat}

/-- No code is longer than the longest there may be. -/
def Short (lengths : Nat → UInt8) (count : Nat) : Prop := ∀ i < count, (lengths i).toNat ≤ deflateMaxBits

lemma aside_count {i : Nat} (h : i ≤ deflateMaxBits) : (Touch.count i).Aside inLen := Nat.lt_succ_of_le h

lemma countLengths_meets (htouch : ∀ i < count, (touch i).Aside inLen) (hshort : Short lengths count) :
    (countLengths touch lengths count).Meets (Touch.Aside inLen) fun r =>
      r.2 ≤ deflateMaxBits ∧ ∀ i < count, (lengths i).toNat ≤ r.2 := by
  refine Meets.foldlM_range
    (I := fun n (r : (Nat → Nat) × Nat) => r.2 ≤ deflateMaxBits ∧ ∀ i < n, (lengths i).toNat ≤ r.2)
    (fun i hi r hr => ?_) ⟨Nat.zero_le _, fun i hi => absurd hi (Nat.not_lt_zero i)⟩
  obtain ⟨blCount, maxBits⟩ := r
  refine .bind (.note (htouch i hi)) fun _ _ => .ite (fun _ => ?_) fun hzero => .pure ⟨hr.1, fun k hk => ?_⟩
  · refine .bind (.note (aside_count (hshort i hi))) fun _ _ => .pure
      ⟨Nat.max_le.mpr ⟨hr.1, hshort i hi⟩, fun k hk => ?_⟩
    rcases Nat.lt_succ_iff_lt_or_eq.mp hk with hk | rfl
    · exact (hr.2 k hk).trans (Nat.le_max_left _ _)
    · exact Nat.le_max_right _ _
  · rcases Nat.lt_succ_iff_lt_or_eq.mp hk with hk | rfl
    · exact hr.2 k hk
    · exact (Nat.eq_zero_of_not_pos hzero).trans_le (Nat.zero_le _)

lemma firstCodes_meets (blCount : Nat → Nat) {maxBits : Nat} (hmax : maxBits ≤ deflateMaxBits) :
    (firstCodes blCount maxBits).Meets (Touch.Aside inLen) fun _ => True := by
  refine Meets.foldlM (I := fun _ => True) (fun r _ bits hbits => ?_) trivial
  obtain ⟨nextCode, code⟩ := r
  obtain ⟨k, hk, rfl⟩ := List.mem_range'.mp hbits
  exact .bind (.note (aside_count (by omega))) fun _ _ =>
    .bind (.note (aside_count (by omega))) fun _ _ => .pure trivial

lemma reversed_lt (code len : Nat) : reversed code len < 2 ^ len := by
  unfold reversed
  induction len with
  | zero => exact Nat.one_pos
  | succ len ih =>
    rw [List.range_succ, List.foldl_append]
    refine Nat.or_lt_two_pow ?_ (Nat.and_lt_two_pow _ (Nat.one_lt_two_pow (Nat.succ_ne_zero len)))
    rw [Nat.shiftLeft_eq, pow_succ]
    exact Nat.mul_lt_mul_of_pos_right ih (by decide)

lemma fillTable_meets {maxBits rev len : Nat} (hrev : rev < 2 ^ len) (hlen : len ≤ maxBits) (entry : HuffmanEntry)
    (table : Nat → HuffmanEntry) :
    (fillTable maxBits rev len entry table).Meets (Touch.Aside inLen) fun _ => True := by
  refine Meets.foldlM (I := fun _ => True) (fun t _ j hj => ?_) trivial
  refine .bind (.note ?_) fun _ _ => .pure trivial
  have hj' : j < 2 ^ (maxBits - len) := by
    rw [← Nat.one_shiftLeft]
    exact List.mem_range.mp hj
  show rev ||| j <<< len < 1 <<< maxBits
  rw [Nat.one_shiftLeft]
  refine Nat.or_lt_two_pow (hrev.trans_le (Nat.pow_le_pow_right Nat.two_pos hlen)) ?_
  calc j <<< len = j * 2 ^ len := Nat.shiftLeft_eq j len
    _ < 2 ^ (maxBits - len) * 2 ^ len := Nat.mul_lt_mul_of_pos_right hj' (Nat.two_pow_pos len)
    _ = 2 ^ maxBits := by rw [← pow_add, Nat.sub_add_cancel hlen]

lemma assignCodes_meets (htouch : ∀ i < count, (touch i).Aside inLen) {maxBits : Nat}
    (hmax : maxBits ≤ deflateMaxBits) (hlengths : ∀ i < count, (lengths i).toNat ≤ maxBits) (nextCode : Nat → Nat) :
    (assignCodes touch lengths count maxBits nextCode).Meets (Touch.Aside inLen) fun _ => True := by
  refine Meets.foldlM (I := fun _ => True) (fun r _ i hi => ?_) trivial
  obtain ⟨table, nextCode⟩ := r
  have hi := List.mem_range.mp hi
  have hlen := hlengths i hi
  refine .bind (.note (htouch i hi)) fun _ _ => .ite (fun _ => .pure trivial) fun _ => ?_
  exact .bind (.note (aside_count (hlen.trans hmax))) fun _ _ =>
    .bind (fillTable_meets (reversed_lt _ _) hlen _ _) fun _ _ => .pure trivial

/-- The table has an entry for each run of its bits. -/
structure HuffmanTable.Sized (ht : HuffmanTable) : Prop where
  maxBits : ht.maxBits ≤ deflateMaxBits
  size : ht.table ≠ none → ht.size = 2 ^ ht.maxBits

lemma huffmanBuild_meets (htouch : ∀ i < count, (touch i).Aside inLen) (hshort : Short lengths count)
    (granted : Bool) :
    (huffmanBuild touch granted lengths count).Meets (Touch.Aside inLen) fun r =>
      ∀ ht, r = some ht → ht.Sized := by
  refine .bind (countLengths_meets htouch hshort) fun r hr => ?_
  obtain ⟨blCount, maxBits⟩ := r
  refine .ite (fun _ => .pure ?_) fun _ => .bind (firstCodes_meets blCount hr.1) fun r' _ => .ite (fun _ => .pure nofun)
    fun _ => .bind (assignCodes_meets htouch hr.1 hr.2 r'.1) fun r'' _ => .pure ?_
  · rintro ht ⟨⟩
    exact ⟨Nat.zero_le _, fun h => absurd rfl h⟩
  · rintro ht ⟨⟩
    exact ⟨hr.1, fun _ => Nat.one_shiftLeft maxBits⟩

end Tables

/-! ## The bits -/

def Bitstream.left (bs : Bitstream) (inLen : Nat) : Int := 8 * ((inLen : Int) - bs.pos) + bs.nbits

/-- Input is taken and none given back. -/
structure Onward (inLen : Nat) (bs bs' : Bitstream) : Prop where
  pos : bs'.pos ≤ inLen
  left : bs'.left inLen ≤ bs.left inLen

section Bits

variable {bs bs' bs'' : Bitstream} {inLen : Nat}

lemma Onward.trans (h : Onward inLen bs bs') (h' : Onward inLen bs' bs'') : Onward inLen bs bs'' :=
  ⟨h'.pos, h'.left.trans h.left⟩

lemma Onward.of_pos (h : bs.pos ≤ inLen) : Onward inLen bs bs := ⟨h, le_rfl⟩

lemma left_bsDropBits (bs : Bitstream) (n : Nat) : (bsDropBits bs n).left inLen = bs.left inLen - n :=
  (add_sub_assoc _ _ _).symm

lemma onward_bsDropBits (h : bs.pos ≤ inLen) (n : Nat) : Onward inLen bs (bsDropBits bs n) :=
  ⟨h, (left_bsDropBits bs n).trans_le (sub_le_self _ (Int.natCast_nonneg n))⟩

lemma within_bsDropBits_iff (hpos : bs.pos ≤ inLen) (n : Nat) :
    (bsDropBits bs n).Within inLen ↔ (n : Int) ≤ bs.nbits := by
  have hnbits : (bsDropBits bs n).nbits = bs.nbits - n := rfl
  have hsame : (bsDropBits bs n).pos = bs.pos := rfl
  rw [Bitstream.Within, hnbits, hsame]
  omega

lemma bsPeekBits_lt (bs : Bitstream) {n : Nat} (hn : n ≤ deflateMaxBits) : (bsPeekBits bs n).toNat < 2 ^ n := by
  unfold bsPeekBits
  have hmask : (1 <<< UInt32.ofNat n - 1 : UInt32).toNat = 2 ^ n - 1 := by
    have hn' : n ≤ 15 := hn
    interval_cases n <;> rfl
  rw [UInt32.toNat_and, hmask]
  exact Nat.and_lt_two_pow _ (Nat.sub_lt (Nat.two_pow_pos n) Nat.one_pos)

variable {data : List UInt8} {outSize : Nat} {g : Progress}

/-- Only the bits have moved, and they onward. -/
def Moved (inLen : Nat) (g : Progress) (bs' : Bitstream) (g' : Progress) : Prop :=
  g' = { g with bs := bs' } ∧ Onward inLen g.bs bs'

lemma Moved.of_pos (h : g.bs.pos ≤ inLen) : Moved inLen g g.bs g := ⟨rfl, .of_pos h⟩

lemma ensureFrom_follows (n : Int) {rest : List UInt8} (hrest : g.bs.pos + rest.length = data.length) :
    (ensureFrom n rest g.bs).Follows Progress.next (Touch.Allowed data.length outSize) g fun r g' =>
      Moved data.length g r.2 g' ∧ r.2.left data.length = g.bs.left data.length ∧ (r.1 = true → n ≤ r.2.nbits) := by
  induction rest generalizing g with
  | nil =>
    have hmoved : Moved data.length g g.bs g := .of_pos hrest.le
    unfold ensureFrom
    exact .ite (fun h => .pure ⟨hmoved, rfl, fun _ => h⟩) fun _ => .pure ⟨hmoved, rfl, nofun⟩
  | cons b rest ih =>
    rw [List.length_cons] at hrest
    unfold ensureFrom
    refine .ite (fun h => .pure ⟨.of_pos (by omega), rfl, fun _ => h⟩) fun _ => ?_
    have hpos : g.bs.pos < data.length := by omega
    set bs₁ : Bitstream := ⟨g.bs.pos + 1, g.bs.bits ||| b.toUInt32 <<< UInt32.ofNat g.bs.nbits.toNat, g.bs.nbits + 8⟩
      with hbs₁
    have hwithin : g.bs.Within data.length → bs₁.Within data.length := by
      simp only [Bitstream.Within, hbs₁]
      push_cast
      omega
    have hleft : bs₁.left data.length = g.bs.left data.length := by
      simp only [Bitstream.left, hbs₁]
      push_cast
      omega
    refine .note_bind ⟨hpos, trivial⟩ (.note_bind ⟨trivial, hwithin⟩ ?_)
    have hrest₁ : bs₁.pos + rest.length = data.length := by
      rw [hbs₁]
      dsimp only
      omega
    refine (ih (g := { g with bs := bs₁ }) hrest₁).mono fun r g' hr => ?_
    obtain ⟨⟨hg', honward⟩, hleft', henough⟩ := hr
    exact ⟨⟨hg', honward.pos, (hleft'.trans hleft).le⟩, hleft'.trans hleft, henough⟩

lemma bsEnsureBits_follows (hpos : g.bs.pos ≤ data.length) (n : Nat) :
    (bsEnsureBits data g.bs n).Follows Progress.next (Touch.Allowed data.length outSize) g fun r g' =>
      Moved data.length g r.2 g' ∧ r.2.left data.length = g.bs.left data.length ∧
        (r.1 = true → (n : Int) ≤ r.2.nbits) :=
  ensureFrom_follows n (by rw [List.length_drop, Nat.add_sub_cancel' hpos])

/-- `n` bits have been read. -/
structure Read (inLen n : Nat) (bs bs' : Bitstream) (val : Nat) : Prop where
  nbits : 0 ≤ bs'.nbits
  left : bs'.left inLen = bs.left inLen - n
  val : val < 2 ^ n

lemma bsReadBits_follows (hpos : g.bs.pos ≤ data.length) {n : Nat} (hn : n ≤ deflateMaxBits) :
    (bsReadBits data g.bs n).Follows Progress.next (Touch.Allowed data.length outSize) g fun r g' =>
      Moved data.length g r.2 g' ∧ ∀ val, r.1 = some val → Read data.length n g.bs r.2 val := by
  refine .bind (bsEnsureBits_follows hpos n) fun r g₁ hr => ?_
  obtain ⟨enough, bs₁⟩ := r
  obtain ⟨⟨rfl, honward⟩, hleft, henough⟩ := hr
  dsimp only at honward hleft henough ⊢
  refine .ite (fun _ => .pure ⟨⟨rfl, honward⟩, nofun⟩) fun h => ?_
  have hn₁ : (n : Int) ≤ bs₁.nbits := henough (Bool.not_eq_false _ ▸ h)
  refine .note_bind ⟨trivial, fun _ => (within_bsDropBits_iff honward.pos n).mpr hn₁⟩ (.pure ⟨⟨rfl, ?_⟩, ?_⟩)
  · exact honward.trans (onward_bsDropBits honward.pos n)
  · rintro val ⟨⟩
    exact ⟨sub_nonneg.mpr hn₁, (left_bsDropBits bs₁ n).trans (by rw [hleft]), bsPeekBits_lt bs₁ hn⟩

lemma huffmanDecode_follows {ht : HuffmanTable} (hsized : ht.Sized) (hpos : g.bs.pos ≤ data.length) :
    (huffmanDecode data ht g.bs).Follows Progress.next (Touch.Allowed data.length outSize) g fun r g' =>
      Moved data.length g r.2 g' := by
  unfold huffmanDecode
  cases htable : ht.table with
  | none => exact .pure (.of_pos hpos)
  | some table =>
    refine .ite (fun _ => .pure (.of_pos hpos)) fun _ => .bind (bsEnsureBits_follows hpos ht.maxBits) fun r g₁ hr => ?_
    obtain ⟨enough, bs₁⟩ := r
    obtain ⟨⟨rfl, honward⟩, -, -⟩ := hr
    dsimp only at honward ⊢
    refine .ite (fun _ => .pure ⟨rfl, honward⟩) fun _ => .note_bind ⟨?_, trivial⟩ (.ite (fun _ => .pure ⟨rfl, honward⟩)
      fun _ => .note_bind ⟨trivial, rfl, rfl, honward.pos⟩ (.pure ⟨rfl, ?_⟩))
    · show _ < ht.size
      rw [hsized.size (by rw [htable]; exact Option.some_ne_none table)]
      exact bsPeekBits_lt bs₁ hsized.maxBits
    · exact honward.trans (onward_bsDropBits honward.pos _)

end Bits

/-! ## A block -/

section Block

variable {data : List UInt8} {outSize fuel : Nat} {g : Progress} {bs : Bitstream}

lemma readExtra_follows (hpos : g.bs.pos ≤ data.length) (base : Nat) {extra : Nat} (hextra : extra ≤ deflateMaxBits) :
    (readExtra data g.bs base extra).Follows Progress.next (Touch.Allowed data.length outSize) g fun r g' =>
      Moved data.length g r.2 g' ∧ ∀ val, r.1 = some val → base ≤ val := by
  refine .ite (fun _ => .bind (bsReadBits_follows hpos hextra) fun r g₁ hr => ?_) fun _ => .pure ⟨.of_pos hpos, ?_⟩
  · obtain ⟨bits, bs₁⟩ := r
    refine .pure ⟨hr.1, fun val hval => ?_⟩
    obtain ⟨v, -, rfl⟩ := Option.map_eq_some_iff.mp hval
    exact Nat.le_add_right base v
  · rintro val ⟨⟩
    exact le_rfl

lemma copyMatch_follows {inLen length src : Nat} (hsrc : src < g.written) (hroom : g.written + length ≤ outSize)
    (out : Nat → UInt8) :
    (copyMatch length src g.written out).Follows Progress.next (Touch.Allowed inLen outSize) g fun _ g' =>
      g' = { g with written := g.written + length } := by
  induction length generalizing src g out with
  | zero => exact .pure rfl
  | succ length ih =>
    have hroom₁ : g.written < outSize := by omega
    refine .note_bind ⟨hsrc, trivial⟩ (.note_bind ⟨⟨rfl, hroom₁⟩, trivial⟩ ?_)
    refine (ih (g := { g with written := g.written + 1 }) (Nat.succ_lt_succ hsrc) ?_ _).mono fun _ g' hg' => ?_
    · show g.written + 1 + length ≤ outSize
      omega
    · rw [hg', Nat.add_assoc, Nat.add_comm 1 length]

lemma one_le_lenBase : ∀ k < 29, 1 ≤ deflateLenBase.getD k 0 ∧ deflateLenExtra.getD k 0 ≤ deflateMaxBits := by decide

lemma one_le_distBase : ∀ k < 30, 1 ≤ deflateDistBase.getD k 0 ∧ deflateDistExtra.getD k 0 ≤ deflateMaxBits := by
  decide

/-- How a block's decoding leaves off. -/
structure Decodes (inLen outSize : Nat) (bs : Bitstream) (d : Decoding) (g : Progress) : Prop where
  stands : g = ⟨d.bs, d.pos⟩
  onward : Onward inLen bs d.bs
  room : d.pos ≤ outSize

lemma inflateSymbol_follows {litlen dist : HuffmanTable} (hlitlen : litlen.Sized) (hdist : dist.Sized) {d : Decoding}
    (h : Decodes data.length outSize bs d g) :
    (inflateSymbol data outSize litlen dist d).Follows Progress.next (Touch.Allowed data.length outSize) g
      (Round (Decodes data.length outSize bs) (fun d => outSize - d.pos)
        (fun r g => Decodes data.length outSize bs r.2 g) d) := by
  obtain ⟨rfl, honward, hroom⟩ := h
  refine .bind (huffmanDecode_follows (g := ⟨d.bs, d.pos⟩) hlitlen honward.pos) fun r g₁ hr => ?_
  obtain ⟨sym, bs₁⟩ := r
  obtain ⟨rfl, h₁⟩ := hr
  replace h₁ := honward.trans h₁
  cases sym with
  | none => exact .pure ⟨rfl, h₁, hroom⟩
  | some sym =>
    refine .ite (fun _ => .ite (fun _ => .pure ⟨rfl, h₁, hroom⟩) fun hfits => ?_) fun _ =>
      .ite (fun _ => .pure ⟨rfl, h₁, hroom⟩) fun _ => .ite (fun _ => .pure ⟨rfl, h₁, hroom⟩) fun hcode => ?_
    · have hfits : d.pos < outSize := Nat.lt_of_not_le hfits
      exact .note_bind ⟨⟨rfl, hfits⟩, trivial⟩
        (.pure ⟨⟨rfl, h₁, hfits⟩, Nat.sub_lt_sub_left hfits (Nat.lt_succ_self d.pos)⟩)
    · have hcode : sym - 257 < 29 := Nat.lt_of_not_le hcode
      obtain ⟨hbase, hextra⟩ := one_le_lenBase _ hcode
      refine .note_bind ⟨hcode, trivial⟩ (.bind (readExtra_follows (g := ⟨bs₁, d.pos⟩) h₁.pos _ hextra)
        fun r g₂ hr => ?_)
      obtain ⟨length, bs₂⟩ := r
      obtain ⟨⟨rfl, h₂⟩, hlength⟩ := hr
      replace h₂ := h₁.trans h₂
      cases length with
      | none => exact .pure ⟨rfl, h₂, hroom⟩
      | some length =>
        replace hlength : 1 ≤ length := hbase.trans (hlength length rfl)
        refine .bind (huffmanDecode_follows (g := ⟨bs₂, d.pos⟩) hdist h₂.pos) fun r g₃ hr => ?_
        obtain ⟨distCode, bs₃⟩ := r
        obtain ⟨rfl, h₃⟩ := hr
        replace h₃ := h₂.trans h₃
        cases distCode with
        | none => exact .pure ⟨rfl, h₃, hroom⟩
        | some distCode =>
          refine .ite (fun _ => .pure ⟨rfl, h₃, hroom⟩) fun hcode => ?_
          have hcode : distCode < 30 := Nat.lt_of_not_le hcode
          obtain ⟨hbase, hextra⟩ := one_le_distBase _ hcode
          refine .note_bind ⟨hcode, trivial⟩ (.bind (readExtra_follows (g := ⟨bs₃, d.pos⟩) h₃.pos _ hextra)
            fun r g₄ hr => ?_)
          obtain ⟨distance, bs₄⟩ := r
          obtain ⟨⟨rfl, h₄⟩, hdistance⟩ := hr
          replace h₄ := h₃.trans h₄
          cases distance with
          | none => exact .pure ⟨rfl, h₄, hroom⟩
          | some distance =>
            replace hdistance : 1 ≤ distance := hbase.trans (hdistance distance rfl)
            refine .ite (fun _ => .pure ⟨rfl, h₄, hroom⟩) fun hfits => ?_
            obtain ⟨hback, hfits⟩ := not_or.mp hfits
            replace hfits : d.pos + length ≤ outSize := Nat.le_of_not_lt hfits
            have hsrc : d.pos - distance < d.pos := by
              have : distance ≤ d.pos := Nat.le_of_not_lt hback
              omega
            refine .bind (copyMatch_follows (g := ⟨bs₄, d.pos⟩) hsrc hfits _) fun out g₅ hg₅ =>
              .pure ⟨⟨hg₅, h₄, hfits⟩, ?_⟩
            show outSize - (d.pos + length) < outSize - d.pos
            omega

lemma inflateBlock_follows {litlen dist : HuffmanTable} (hlitlen : litlen.Sized) (hdist : dist.Sized) {d : Decoding}
    (hpos : d.bs.pos ≤ data.length) (hroom : d.pos ≤ outSize) :
    (inflateBlock data outSize fuel litlen dist d).Follows Progress.next (Touch.Allowed data.length outSize) ⟨d.bs, d.pos⟩
      (Ended fuel (outSize - d.pos) fun r g => Decodes data.length outSize d.bs r.2 g) :=
  Follows.loop (fun _ _ h => inflateSymbol_follows hlitlen hdist h) fuel ⟨rfl, .of_pos hpos, hroom⟩

end Block

/-! ## The stream -/

section Stream

variable {data : List UInt8} {outSize fuel : Nat} {grants : Nat → Bool} {bs : Bitstream} {s : Inflation}
  {g : Progress}

/-- Where one block has ended and the next may begin. -/
structure Between (inLen outSize : Nat) (bs : Bitstream) (s : Inflation) (g : Progress) : Prop where
  stands : g = ⟨s.bs, s.outPos⟩
  onward : Onward inLen bs s.bs
  room : s.outPos ≤ outSize

/-- How a whole stream leaves off. -/
structure Inflates (inLen outSize : Nat) (bs : Bitstream) (r : Option UnzipError × Inflation) (g : Progress) :
    Prop where
  room : r.2.outPos ≤ outSize
  well : r.1 = none → Between inLen outSize bs r.2 g

lemma copyStored_follows {pos len : Nat} (hinput : pos + len ≤ data.length) (houtput : g.written + len ≤ outSize)
    (out : Nat → UInt8) :
    (copyStored data pos g.written len out).Follows Progress.next (Touch.Allowed data.length outSize) g fun _ g' =>
      g' = { g with written := g.written + len } := by
  have hrun : ∀ n ≤ len, Runs.Along Progress.next (Touch.Allowed data.length outSize) g
        ((List.range n).flatMap fun k => [.input (pos + k), .written (g.written + k)]) ∧
      Runs.exec Progress.next g ((List.range n).flatMap fun k => [.input (pos + k), .written (g.written + k)]) =
        { g with written := g.written + n } := by
    intro n
    induction n with
    | zero => exact fun _ => ⟨Runs.along_nil g, rfl⟩
    | succ n ih =>
      intro hn
      obtain ⟨halong, hexec⟩ := ih (Nat.le_of_succ_le hn)
      rw [List.range_succ, List.flatMap_append, Runs.along_append, Runs.exec_append, hexec]
      refine ⟨⟨halong, ?_⟩, rfl⟩
      have hin : pos + n < data.length := by omega
      have hout : g.written + n < outSize := by omega
      rw [List.flatMap_singleton, Runs.along_cons, Runs.along_cons]
      exact ⟨⟨hin, trivial⟩, ⟨⟨rfl, hout⟩, trivial⟩, Runs.along_nil _⟩
  obtain ⟨halong, hexec⟩ := hrun len le_rfl
  exact ⟨halong, hexec⟩

lemma storedBlock_follows (hbits : 0 ≤ s.bs.nbits) (h : Between data.length outSize bs s g) :
    (storedBlock data outSize s).Follows Progress.next (Touch.Allowed data.length outSize) g
      (Ended fuel outSize (Inflates data.length outSize bs)) := by
  obtain ⟨rfl, honward, hroom⟩ := h
  have haligned : ∀ n, n ≤ data.length → s.bs.pos ≤ n → Onward data.length bs ⟨n, 0, 0⟩ := by
    refine fun n hn hle => honward.trans ⟨hn, ?_⟩
    simp only [Bitstream.left]
    omega
  have hwithin : ∀ n, n ≤ data.length → (⟨n, 0, 0⟩ : Bitstream).Within data.length := by
    refine fun n hn => ⟨le_rfl, ?_⟩
    dsimp only
    omega
  refine .note_bind ⟨trivial, fun _ => hwithin _ honward.pos⟩
    (.ite (fun _ => .pure (.some ⟨hroom, nofun⟩)) fun hlen => ?_)
  have hlen : s.bs.pos + 4 ≤ data.length := Nat.le_of_not_lt hlen
  have hskip : s.bs.pos ≤ s.bs.pos + 4 := Nat.le_add_right _ 4
  have hword : ∀ pos, pos + 2 ≤ data.length → (readLe16 data pos).Meets (Touch.Aside data.length) fun _ => True := by
    refine fun pos hpos => ⟨List.forall_mem_cons.mpr ⟨?_, List.forall_mem_singleton.mpr ?_⟩, trivial⟩
    · exact show pos < data.length by omega
    · exact show pos + 1 < data.length by omega
  refine .bind ((hword s.bs.pos (by omega)).follows fun _ ht => ht.allowed outSize _) fun len g₁ h₁ => ?_
  obtain ⟨-, rfl⟩ := h₁
  refine .bind ((hword (s.bs.pos + 2) (by omega)).follows fun _ ht => ht.allowed outSize _) fun nlen g₂ h₂ => ?_
  obtain ⟨-, rfl⟩ := h₂
  refine .note_bind ⟨trivial, fun _ => hwithin _ hlen⟩ (.ite (fun _ => .pure (.some ⟨hroom, nofun⟩)) fun hfits => ?_)
  obtain ⟨-, hinput, houtput⟩ := not_or.mp hfits |>.imp id not_or.mp
  have hinput : s.bs.pos + 4 + len ≤ data.length := Nat.le_of_not_lt hinput
  have houtput : s.outPos + len ≤ outSize := Nat.le_of_not_lt houtput
  refine .bind (copyStored_follows hinput houtput s.out) fun out g₃ h₃ => ?_
  subst h₃
  exact .note_bind ⟨trivial, fun _ => hwithin _ hinput⟩
    (.pure (.some ⟨houtput, fun _ => ⟨rfl, haligned _ hinput (hskip.trans (Nat.le_add_right _ len)), houtput⟩⟩))

lemma codedBlock_follows {touchLitlen touchDist : Nat → Touch} {litlen dist : Nat → UInt8} {hlit hdist : Nat}
    (htouchLitlen : ∀ i < hlit, (touchLitlen i).Aside data.length)
    (htouchDist : ∀ i < hdist, (touchDist i).Aside data.length) (hlitlen : Short litlen hlit)
    (hdists : Short dist hdist) (h : Between data.length outSize bs s g) :
    (codedBlock data outSize fuel grants touchLitlen touchDist litlen dist hlit hdist s).Follows Progress.next
      (Touch.Allowed data.length outSize) g (Ended fuel outSize (Inflates data.length outSize bs)) := by
  obtain ⟨rfl, honward, hroom⟩ := h
  refine .bind ((huffmanBuild_meets htouchLitlen hlitlen _).follows fun _ ht => ht.allowed outSize _)
    fun litlen g₁ h₁ => ?_
  obtain ⟨hsized, rfl⟩ := h₁
  cases litlen with
  | none => exact .pure (.some ⟨hroom, nofun⟩)
  | some litlen =>
    refine .bind ((huffmanBuild_meets htouchDist hdists _).follows fun _ ht => ht.allowed outSize _)
      fun dist g₂ h₂ => ?_
    obtain ⟨hsized', rfl⟩ := h₂
    cases dist with
    | none => exact .pure (.some ⟨hroom, nofun⟩)
    | some dist =>
      refine .bind (inflateBlock_follows (d := ⟨s.bs, s.out, s.outPos⟩) (hsized litlen rfl) (hsized' dist rfl)
        honward.pos hroom) fun r g₃ hr => ?_
      match r, hr with
      | none, hr => exact .pure ⟨nofun, fun hfuel => absurd rfl (hr.2 ((Nat.sub_le _ _).trans_lt hfuel))⟩
      | some (false, d), _ => exact .pure (.some ⟨hroom, nofun⟩)
      | some (true, d), hr =>
        obtain ⟨hstands, honward', hroom'⟩ := hr.1 _ rfl
        exact .pure (.some ⟨hroom', fun _ => ⟨hstands, honward.trans honward', hroom'⟩⟩)

lemma fixedBlock_follows (h : Between data.length outSize bs s g) :
    (fixedBlock data outSize fuel grants s).Follows Progress.next (Touch.Allowed data.length outSize) g
      (Ended fuel outSize (Inflates data.length outSize bs)) := by
  refine codedBlock_follows (fun i hi => hi) (fun i hi => hi) (fun i _ => ?_)
    (fun _ _ => (by decide : (5 : UInt8).toNat ≤ deflateMaxBits)) h
  unfold deflateFixedLitlen
  split_ifs <;> decide

lemma codelenOrder_lt : ∀ i < deflateMaxCodelen, deflateCodelenOrder.getD i 0 < deflateMaxCodelen := by decide

lemma readCodelens_follows {n i : Nat} (hi : i + n ≤ deflateMaxCodelen) (hpos : g.bs.pos ≤ data.length)
    {lengths : Nat → UInt8} (hlengths : ∀ k, (lengths k).toNat ≤ deflateMaxBits) :
    (readCodelens data i n g.bs lengths).Follows Progress.next (Touch.Allowed data.length outSize) g fun r g' =>
      Moved data.length g r.2 g' ∧ ∀ l, r.1 = some l → ∀ k, (l k).toNat ≤ deflateMaxBits := by
  induction n generalizing i g lengths with
  | zero =>
    refine .pure ⟨.of_pos hpos, ?_⟩
    rintro l ⟨⟩
    exact hlengths
  | succ n ih =>
    refine .bind (bsReadBits_follows hpos (by decide)) fun r g₁ hr => ?_
    obtain ⟨cbits, bs₁⟩ := r
    obtain ⟨⟨rfl, honward⟩, hread⟩ := hr
    cases cbits with
    | none => exact .pure ⟨⟨rfl, honward⟩, nofun⟩
    | some cbits =>
      have hcbits : cbits < 8 := (hread cbits rfl).val
      have hi' : i < deflateMaxCodelen := by omega
      refine .note_bind ⟨hi', trivial⟩ (.note_bind ⟨codelenOrder_lt i hi', trivial⟩ ?_)
      refine (ih (g := { g with bs := bs₁ }) (by omega) honward.pos fun k => ?_).mono fun r g' hr => ?_
      · rw [Function.update_apply]
        split
        · rw [UInt8.toNat_ofNat_of_lt' (hcbits.trans (by decide))]
          exact Nat.le_of_lt_succ (hcbits.trans (by decide))
        · exact hlengths k
      · exact ⟨⟨hr.1.1, honward.trans hr.1.2⟩, hr.2⟩

/-- The loop over the code lengths has gone on in the input; those that it has are no longer than a code may be. -/
structure Lengthens (inLen n : Nat) (bs : Bitstream) (written : Nat) (l : Lengths) (g : Progress) : Prop where
  stands : g = ⟨l.bs, written⟩
  onward : Onward inLen bs l.bs
  i : l.i ≤ n
  short : Short l.lengths l.i

lemma short_update {lengths : Nat → UInt8} {i : Nat} (h : Short lengths i) {len : UInt8}
    (hlen : len.toNat ≤ deflateMaxBits) : Short (Function.update lengths i len) (i + 1) := by
  intro k hk
  rw [Function.update_apply]
  split
  · exact hlen
  · exact h k (by omega)

lemma repeatLength_meets {inLen n : Nat} (hn : n ≤ deflateMaxLitlen + deflateMaxDist) {len : UInt8}
    (hlen : len.toNat ≤ deflateMaxBits) (times : Nat) {i : Nat} {lengths : Nat → UInt8} (hi : i ≤ n)
    (hshort : Short lengths i) :
    (repeatLength n len times i lengths).Meets (Touch.Aside inLen) fun r =>
      i ≤ r.1 ∧ r.1 ≤ n ∧ (0 < times → i < n → i < r.1) ∧ Short r.2 r.1 := by
  induction times generalizing i lengths with
  | zero => exact .pure ⟨le_rfl, hi, fun h => absurd h (Nat.lt_irrefl 0), hshort⟩
  | succ times ih =>
    refine .ite (fun hlt => ?_) fun hge => .pure ⟨le_rfl, hi, fun _ hlt => absurd hlt hge, hshort⟩
    refine .bind (.note (hlt.trans_le hn)) fun _ _ => (ih hlt (short_update hshort hlen)).mono fun r hr => ?_
    exact ⟨(Nat.le_succ i).trans hr.1, hr.2.1, fun _ _ => hr.1, hr.2.2.2⟩

/-- One round of the code lengths. -/
def LengthRound (inLen n : Nat) (bs : Bitstream) (written : Nat) :
    Lengths → Lengths ⊕ Bool × Lengths → Progress → Prop :=
  Round (Lengthens inLen n bs written) (fun l => n - l.i)
    fun r g => r.1 = true → Lengthens inLen n bs written r.2 g ∧ n ≤ r.2.i

lemma run_follows {written n : Nat} (hn : n ≤ deflateMaxLitlen + deflateMaxDist) {l : Lengths} (hlt : l.i < n)
    (h : Lengthens data.length n bs written l g) {len : UInt8} (hlen : len.toNat ≤ deflateMaxBits) {bs' : Bitstream}
    (h' : Onward data.length l.bs bs') {times : Nat} (htimes : 0 < times) :
    (repeatLength n len times l.i l.lengths >>= fun r =>
      (pure (.inl ⟨bs', r.1, r.2⟩) : Traced Touch (Lengths ⊕ Bool × Lengths))).Follows Progress.next
        (Touch.Allowed data.length outSize) ⟨bs', written⟩ (LengthRound data.length n bs written l) := by
  refine .bind ((repeatLength_meets hn hlen times h.i h.short).follows fun _ ht => ht.allowed outSize _)
    fun r g₁ hr => ?_
  obtain ⟨⟨-, hle, hgrows, hshort⟩, rfl⟩ := hr
  exact .pure ⟨⟨rfl, h.onward.trans h', hle, hshort⟩, Nat.sub_lt_sub_left hlt (hgrows htimes hlt)⟩

lemma readLength_follows {codelen : HuffmanTable} (hsized : codelen.Sized) {written n : Nat}
    (hn : n ≤ deflateMaxLitlen + deflateMaxDist) {l : Lengths} (h : Lengthens data.length n bs written l g) :
    (readLength data codelen n l).Follows Progress.next (Touch.Allowed data.length outSize) g
      (LengthRound data.length n bs written l) := by
  have hl := h
  obtain ⟨rfl, honward, hi, hshort⟩ := h
  refine .ite (fun hle => .pure fun _ => ⟨hl, hle⟩) fun hlt => ?_
  have hlt : l.i < n := Nat.lt_of_not_le hlt
  refine .bind (huffmanDecode_follows (g := ⟨l.bs, written⟩) hsized honward.pos) fun r g₁ hr => ?_
  obtain ⟨sym, bs₁⟩ := r
  obtain ⟨rfl, h₁⟩ := hr
  cases sym with
  | none => exact .pure nofun
  | some sym =>
    refine .ite (fun hsym => ?_) fun _ => .ite (fun _ => ?_) fun _ => .ite (fun _ => ?_) fun _ => .ite (fun _ => ?_)
      fun _ => .pure nofun
    · have hlen : (UInt8.ofNat sym).toNat ≤ deflateMaxBits := by
        rw [UInt8.toNat_ofNat_of_lt' (hsym.trans (by decide))]
        exact Nat.le_of_lt_succ hsym
      exact .note_bind ⟨hlt.trans_le hn, trivial⟩ (.pure
        ⟨⟨rfl, honward.trans h₁, hlt, short_update hshort hlen⟩, Nat.sub_lt_sub_left hlt (Nat.lt_succ_self l.i)⟩)
    · refine .bind (bsReadBits_follows (g := ⟨bs₁, written⟩) h₁.pos (by decide)) fun r g₂ hr => ?_
      obtain ⟨times, bs₂⟩ := r
      obtain ⟨⟨rfl, h₂⟩, -⟩ := hr
      cases times with
      | none => exact .pure nofun
      | some times =>
        refine .ite (fun _ => .pure nofun) fun hzero => ?_
        have hprev : l.i - 1 < l.i := Nat.sub_lt (Nat.pos_of_ne_zero hzero) Nat.one_pos
        exact .note_bind ⟨hprev.trans (hlt.trans_le hn), trivial⟩
          (run_follows hn hlt hl (hshort _ hprev) (h₁.trans h₂) (Nat.succ_pos _))
    · refine .bind (bsReadBits_follows (g := ⟨bs₁, written⟩) h₁.pos (by decide)) fun r g₂ hr => ?_
      obtain ⟨times, bs₂⟩ := r
      obtain ⟨⟨rfl, h₂⟩, -⟩ := hr
      cases times with
      | none => exact .pure nofun
      | some times => exact run_follows hn hlt hl (Nat.zero_le _) (h₁.trans h₂) (Nat.succ_pos _)
    · refine .bind (bsReadBits_follows (g := ⟨bs₁, written⟩) h₁.pos (by decide)) fun r g₂ hr => ?_
      obtain ⟨times, bs₂⟩ := r
      obtain ⟨⟨rfl, h₂⟩, -⟩ := hr
      cases times with
      | none => exact .pure nofun
      | some times => exact run_follows hn hlt hl (Nat.zero_le _) (h₁.trans h₂) (Nat.succ_pos _)

lemma dynamicBlock_follows (garbage : Nat → UInt8) (h : Between data.length outSize bs s g) :
    (dynamicBlock data outSize fuel grants garbage s).Follows Progress.next (Touch.Allowed data.length outSize) g
      (Ended fuel (outSize + (deflateMaxLitlen + deflateMaxDist)) (Inflates data.length outSize bs)) := by
  obtain ⟨rfl, honward, hroom⟩ := h
  refine .bind (bsReadBits_follows (g := ⟨s.bs, s.outPos⟩) honward.pos (by decide)) fun r g₁ h₁ => ?_
  obtain ⟨hlit, bs₁⟩ := r
  obtain ⟨⟨rfl, h₁⟩, hlitRead⟩ := h₁
  refine .bind (bsReadBits_follows (g := ⟨bs₁, s.outPos⟩) h₁.pos (by decide)) fun r g₂ h₂ => ?_
  obtain ⟨hdist, bs₂⟩ := r
  obtain ⟨⟨rfl, h₂⟩, hdistRead⟩ := h₂
  refine .bind (bsReadBits_follows (g := ⟨bs₂, s.outPos⟩) h₂.pos (by decide)) fun r g₃ h₃ => ?_
  obtain ⟨hclen, bs₃⟩ := r
  obtain ⟨⟨rfl, h₃⟩, hclenRead⟩ := h₃
  match hlit, hdist, hclen with
  | none, _, _ => exact .pure (.some ⟨hroom, nofun⟩)
  | some _, none, _ => exact .pure (.some ⟨hroom, nofun⟩)
  | some _, some _, none => exact .pure (.some ⟨hroom, nofun⟩)
  | some hlit, some hdist, some hclen =>
    have hlitLe : hlit + 257 ≤ deflateMaxLitlen := Nat.add_le_add_right (Nat.le_of_lt_succ (hlitRead hlit rfl).val) 257
    have hdistLe : hdist + 1 ≤ deflateMaxDist := (hdistRead hdist rfl).val
    have hn := Nat.add_le_add hlitLe hdistLe
    have hclenLe : 0 + (hclen + 4) ≤ deflateMaxCodelen := by
      have : hclen < 16 := (hclenRead hclen rfl).val
      exact show 0 + (hclen + 4) ≤ 19 by omega
    refine .bind (readCodelens_follows (g := ⟨bs₃, s.outPos⟩) hclenLe h₃.pos fun _ => Nat.zero_le _) fun r g₄ h₄ => ?_
    obtain ⟨codelens, bs₄⟩ := r
    obtain ⟨⟨rfl, h₄⟩, hcodelens⟩ := h₄
    cases codelens with
    | none => exact .pure (.some ⟨hroom, nofun⟩)
    | some codelens =>
      have htouch : ∀ i < deflateMaxCodelen, (Touch.codelen i).Aside data.length := fun i hi => hi
      have hbuild := huffmanBuild_meets htouch (fun k _ => hcodelens codelens rfl k) (grants s.asked)
      refine .bind (hbuild.follows fun _ ht => ht.allowed outSize _) fun codelen g₅ h₅ => ?_
      obtain ⟨hsized, rfl⟩ := h₅
      cases codelen with
      | none => exact .pure (.some ⟨hroom, nofun⟩)
      | some codelen =>
        have hstart :
            Lengthens data.length (hlit + 257 + (hdist + 1)) bs₄ s.outPos ⟨bs₄, 0, garbage⟩ ⟨bs₄, s.outPos⟩ :=
          ⟨rfl, .of_pos h₄.pos, Nat.zero_le _, fun k hk => absurd hk (Nat.not_lt_zero k)⟩
        refine .bind (Follows.loop (fun _ _ hl => readLength_follows (hsized codelen rfl) hn hl) fuel hstart)
          fun r g₆ hr => ?_
        match r, hr with
        | none, hr => exact .pure ⟨nofun, fun hfuel => absurd rfl (hr.2 (by dsimp only; omega))⟩
        | some (false, l), _ => exact .pure (.some ⟨hroom, nofun⟩)
        | some (true, l), hr =>
          obtain ⟨⟨hstands, hmoved, -, hshort⟩, hfull⟩ := hr.1 _ rfl rfl
          have hlitTouch : ∀ i < hlit + 257, (Touch.lengths i).Aside data.length :=
            fun i hi => (hi.trans_le hlitLe).trans_le (Nat.le_add_right _ _)
          have hdistTouch : ∀ i < hdist + 1, (Touch.lengths (hlit + 257 + i)).Aside data.length :=
            fun i hi => (Nat.add_lt_add_left hi _).trans_le hn
          have hlitShort : Short l.lengths (hlit + 257) :=
            fun i hi => hshort i (hi.trans_le ((Nat.le_add_right _ _).trans hfull))
          have hdistShort : Short (fun i => l.lengths (hlit + 257 + i)) (hdist + 1) :=
            fun i hi => hshort _ ((Nat.add_lt_add_left hi _).trans_le hfull)
          have hs : Between data.length outSize bs { s with bs := l.bs, asked := s.asked + 1 } g₆ :=
            ⟨hstands, honward.trans (h₁.trans (h₂.trans (h₃.trans (h₄.trans hmoved)))), hroom⟩
          exact (codedBlock_follows hlitTouch hdistTouch hlitShort hdistShort hs).mono fun o _ ho =>
            ho.mono (Nat.le_add_right _ _) fun _ hr => hr

/-- `inflate_stream` returns: if with `UNZIP_OK`, at the place in the input that was last stood at. -/
structure Returns (outSize : Nat) (r : Option UnzipError × Inflation) (g : Progress) : Prop where
  room : r.2.outPos ≤ outSize
  stands : r.1 = none → g.bs = r.2.bs

lemma inflateRound_follows (garbage : Nat → UInt8) (h : Between data.length outSize s.bs s g) :
    (inflateRound data outSize fuel grants garbage s).Follows Progress.next (Touch.Allowed data.length outSize) g
      (Round (fun s g => Between data.length outSize s.bs s g) (fun s => (s.bs.left data.length).toNat)
        (Ended fuel (outSize + (deflateMaxLitlen + deflateMaxDist)) (Returns outSize)) s) := by
  obtain ⟨rfl, honward, hroom⟩ := h
  refine .bind (bsReadBits_follows (g := ⟨s.bs, s.outPos⟩) honward.pos (by decide)) fun r g₁ h₁ => ?_
  obtain ⟨bfinal, bs₁⟩ := r
  obtain ⟨⟨rfl, h₁⟩, hfinal⟩ := h₁
  refine .bind (bsReadBits_follows (g := ⟨bs₁, s.outPos⟩) h₁.pos (by decide)) fun r g₂ h₂ => ?_
  obtain ⟨btype, bs₂⟩ := r
  obtain ⟨⟨rfl, h₂⟩, htype⟩ := h₂
  match bfinal, btype with
  | none, _ => exact .pure (.some ⟨hroom, nofun⟩)
  | some _, none => exact .pure (.some ⟨hroom, nofun⟩)
  | some bfinal, some btype =>
    have hheader : bs₁.left data.length = s.bs.left data.length - (1 : Nat) := (hfinal bfinal rfl).left
    have hmore : bs₂.left data.length = bs₁.left data.length - (2 : Nat) := (htype btype rfl).left
    have hnbits : 0 ≤ bs₂.nbits := (htype btype rfl).nbits
    have hleft : 0 ≤ bs₂.left data.length := by
      have hpos : bs₂.pos ≤ data.length := h₂.pos
      simp only [Bitstream.left]
      omega
    have hs : Between data.length outSize bs₂ { s with bs := bs₂ } ⟨bs₂, s.outPos⟩ := ⟨rfl, .of_pos h₂.pos, hroom⟩
    have hwider : ∀ (o : Outcome) (g : Progress), Ended fuel outSize (Inflates data.length outSize bs₂) o g →
        Ended fuel (outSize + (deflateMaxLitlen + deflateMaxDist)) (Inflates data.length outSize bs₂) o g :=
      fun o g ho => ho.mono (Nat.le_add_right _ _) fun _ hr => hr
    refine .bind (Q := Ended fuel (outSize + (deflateMaxLitlen + deflateMaxDist)) (Inflates data.length outSize bs₂))
      (.ite (fun _ => (storedBlock_follows hnbits hs).mono hwider) fun _ =>
        .ite (fun _ => (fixedBlock_follows hs).mono hwider) fun _ =>
          .ite (fun _ => dynamicBlock_follows garbage hs) fun _ => .pure (.some ⟨hroom, nofun⟩)) fun o g₃ ho => ?_
    have hend : ∀ o : Outcome, Ended fuel (outSize + (deflateMaxLitlen + deflateMaxDist))
          (Inflates data.length outSize bs₂) o g₃ →
        Ended fuel (outSize + (deflateMaxLitlen + deflateMaxDist)) (Returns outSize) o g₃ :=
      fun o ho => ho.mono le_rfl fun _ hr => ⟨hr.room, fun hok => congrArg Progress.bs (hr.well hok).stands⟩
    match o, ho with
    | none, ho => exact .pure (hend _ ho)
    | some (some e, s'), ho => exact .pure (hend _ ho)
    | some (none, s'), ho =>
      obtain ⟨hstands, hback, hroom'⟩ := (ho.1 _ rfl).well rfl
      refine .ite (fun _ => .pure ⟨⟨hstands, .of_pos hback.pos, hroom'⟩, ?_⟩) fun _ => .pure (hend _ ho)
      have hback' : s'.bs.left data.length ≤ bs₂.left data.length := hback.left
      show (s'.bs.left data.length).toNat < (s.bs.left data.length).toNat
      omega

variable (data outSize fuel grants)

lemma inflateStream_follows (garbage out : Nat → UInt8) :
    (inflateStream data outSize fuel grants garbage out).Follows Progress.next (Touch.Allowed data.length outSize)
      ⟨bsInit, 0⟩
      (Ended fuel (8 * data.length + outSize + (deflateMaxLitlen + deflateMaxDist)) (Returns outSize)) := by
  have hstart : Between data.length outSize bsInit ⟨bsInit, out, 0, 0⟩ ⟨bsInit, 0⟩ :=
    ⟨rfl, .of_pos (Nat.zero_le _), Nat.zero_le _⟩
  refine .bind (Follows.loop (fun _ _ h => inflateRound_follows garbage h) fuel hstart) fun done g hdone => .pure ?_
  have hleft : (bsInit.left data.length).toNat = 8 * data.length := by
    simp only [Bitstream.left, bsInit]
    omega
  dsimp only at hdone
  rw [hleft] at hdone
  match done, hdone with
  | none, hdone => exact ⟨nofun, fun hfuel => absurd rfl (hdone.2 (by omega))⟩
  | some o, hdone => exact (hdone.1 o rfl).mono (by omega) fun _ hr => hr

/-- Whatever the input says, and wherever it ends: no index leaves its array, the output is written from its start to
no further than its end, and only what has been written is copied; as many rounds as the input has bits, the output
bytes and the tables code lengths are enough for every loop. -/
theorem inflate_bounded (garbage out : Nat → UInt8) :
    Runs.Along Progress.next (fun g t => t.InBounds data.length outSize g.written) ⟨bsInit, 0⟩
        (inflateStream data outSize fuel grants garbage out).trace ∧
      (8 * data.length + outSize + (deflateMaxLitlen + deflateMaxDist) < fuel →
        ∃ r, (inflateStream data outSize fuel grants garbage out).value = some r ∧ r.2.outPos ≤ outSize) := by
  have hrun := inflateStream_follows data outSize fuel grants garbage out
  refine ⟨fun v hv => (hrun.along v hv).1, fun hfuel => ?_⟩
  obtain ⟨r, hr⟩ := Option.ne_none_iff_exists'.mp (hrun.value.2 hfuel)
  exact ⟨r, hr, (hrun.value.1 r hr).room⟩

/-- A block with the fixed codes: four letters, and eight more that are copied from three back. -/
def lettersTwice : List UInt8 := [0x4b, 0x4c, 0x4a, 0x4e, 0x84, 0x21, 0x00]

lemma lettersTwice_inflates :
    (inflateStream lettersTwice 12 400 (fun _ => true) (fun _ => 0) fun _ => 0).value.map
      (fun r => (r.1, (List.range r.2.outPos).map r.2.out)) =
        some (none, (List.replicate 4 [0x61, 0x62, 0x63]).flatten) := by
  decide +kernel

theorem inflate_bounded_letters :
    let outcome := (inflateStream lettersTwice 12 400 (fun _ => true) (fun _ => 0) fun _ => 0).value
    (∃ r, outcome = some r ∧ r.2.outPos ≤ 12) ∧
      outcome.map (fun r => (r.1, (List.range r.2.outPos).map r.2.out)) =
        some (none, (List.replicate 4 [0x61, 0x62, 0x63]).flatten) :=
  ⟨(inflate_bounded lettersTwice 12 400 (fun _ => true) (fun _ => 0) fun _ => 0).2 (by decide), lettersTwice_inflates⟩

/-! ## The end of the input -/

/-- After a move of the bits, none has been used that is not in the input. -/
def Touch.Lands (inLen : Nat) : Touch → Prop
  | .took _ _ bs' => bs'.Within inLen
  | .stands bs' => bs'.Within inLen
  | _ => True

/-- A code that is taken is no longer than the bits that are left. -/
def Touch.Covered : Touch → Prop
  | .took entry bs _ => (entry.bits.toNat : Int) ≤ bs.nbits
  | _ => True

instance (inLen : Nat) (t : Touch) : Decidable (t.Lands inLen) := by
  cases t <;> unfold Touch.Lands <;> try unfold Bitstream.Within
  all_goals infer_instance

/-- The decoder stands in the input at every step if and only if no code is taken that is longer than the bits which
are left.  A block's header, a length and the bits extra to a code are read only where they are there.  If no such code
is taken, then what returns `UNZIP_OK` has ended in the input. -/
theorem inflate_within_iff (garbage out : Nat → UInt8) :
    ((∀ t ∈ (inflateStream data outSize fuel grants garbage out).trace, t.Lands data.length) ↔
      ∀ t ∈ (inflateStream data outSize fuel grants garbage out).trace, t.Covered) ∧
    ((∀ t ∈ (inflateStream data outSize fuel grants garbage out).trace, t.Covered) → ∀ s,
      (inflateStream data outSize fuel grants garbage out).value = some (none, s) → s.bs.Within data.length) := by
  obtain ⟨hrun, hends⟩ := inflateStream_follows data outSize fuel grants garbage out
  have hforall : ∀ (P : Touch → Prop) (ts : List Touch) (g : Progress),
      (∀ t ∈ ts, P t) ↔ Runs.Along Progress.next (fun _ t => P t) g ts := by
    intro P ts
    induction ts with
    | nil => exact fun g => iff_of_true (List.forall_mem_nil _) (Runs.along_nil g)
    | cons t ts ih => exact fun g => by rw [List.forall_mem_cons, Runs.along_cons, ih]
  rw [hforall _ _ ⟨bsInit, 0⟩, hforall _ _ ⟨bsInit, 0⟩]
  have hstep : ∀ (g : Progress) (t : Touch), g.bs.Within data.length → Touch.Allowed data.length outSize g t →
      (t.Covered ↔ t.Lands data.length) ∧ (t.Covered → (g.next t).bs.Within data.length) := by
    intro g t hg hallowed
    cases t with
    | took entry bs bs' =>
      obtain ⟨rfl, rfl, hpos⟩ := hallowed.2
      have hiff := within_bsDropBits_iff hpos entry.bits.toNat
      exact ⟨hiff.symm, hiff.mpr⟩
    | stands bs' => exact ⟨iff_of_true trivial (hallowed.2 hg), fun _ => hallowed.2 hg⟩
    | _ => exact ⟨Iff.rfl, fun _ => hg⟩
  have hstart : bsInit.Within data.length := by
    refine ⟨le_rfl, ?_⟩
    dsimp only [bsInit]
    omega
  refine ⟨(Runs.along_iff_of_allowed (I := fun g => g.bs.Within data.length)
    (fun g t hg hl hc => (hstep g t hg hl).2 hc) (fun g t hg hl => (hstep g t hg hl).1) _ _ hstart hrun).symm, ?_⟩
  intro hcovered s hs
  have hboth : Runs.Along Progress.next (fun g t => Touch.Allowed data.length outSize g t ∧ t.Covered) ⟨bsInit, 0⟩
      (inflateStream data outSize fuel grants garbage out).trace := fun v hv => ⟨hrun v hv, hcovered v hv⟩
  have hwithin := Runs.exec_inv (I := fun g : Progress => g.bs.Within data.length)
    (fun g t hg ht => (hstep g t hg ht.1).2 ht.2) _ _ hstart hboth
  rwa [(hends.1 _ hs).stands rfl] at hwithin

theorem not_inflate_within :
    (inflateStream [0x03] 0 2 (fun _ => true) (fun _ => 0) fun _ => 0).value.map (·.1) = some none ∧
      ¬∀ t ∈ (inflateStream [0x03] 0 2 (fun _ => true) (fun _ => 0) fun _ => 0).trace, t.Lands 1 := by
  decide +kernel

end Stream

end RpcEmu.Hostfs
