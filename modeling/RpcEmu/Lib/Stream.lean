import RpcEmu.Lib.Program
import RpcEmu.Lib.Bytes
import Mathlib.Tactic

/-!
# Reading a file with a latched error

A file that is read from front to back, as C's `fread` does it, by programs that do not look at every
return value: a read that falls short gives zeros and latches an error, and the program goes on.

**Known bytes.**  `Reads p bs v` says that `p` reads exactly `bs` and gives `v`, whatever follows.
It composes along `bind`, so a reader is followed through the bytes a writer left.  `Gives p bs P` says
only what comes of it, and `Always p P` says it of every file.
-/

namespace Streams

open Effects

structure Stream where
  data : List UInt8
  pos : Nat
  error : Bool
  deriving DecidableEq, Repr

def Stream.opened (data : List UInt8) : Stream := ⟨data, 0, false⟩

def Stream.ahead (s : Stream) : List UInt8 := s.data.drop s.pos

def Stream.move (s : Stream) (n : Nat) : Stream := { s with pos := s.pos + n }

/-- All of `len` bytes, or zeros and an error. -/
def Stream.read (s : Stream) (len : Nat) : List UInt8 × Stream :=
  if len ≤ s.ahead.length then (s.ahead.take len, s.move len)
  else (List.replicate len 0, { s with pos := max s.pos s.data.length, error := true })

inductive ReadOp
  | read (len : Nat)
  | skip (n : Nat)
  | fail
  | failed

def ReadOp.Reply : ReadOp → Type
  | read _ => List UInt8
  | skip _ => Unit
  | fail => Unit
  | failed => Bool

abbrev Read (α : Type) := Prog ReadOp ReadOp.Reply α

def handler : Handler ReadOp ReadOp.Reply Stream
  | .read len, s => s.read len
  | .skip n, s => ((), s.move n)
  | .fail, s => ((), { s with error := true })
  | .failed, s => (s.error, s)

def bytes (len : Nat) : Read (List UInt8) := Prog.perform (ReadOp.read len)

def skip (n : Nat) : Read Unit := Prog.perform (ReadOp.skip n)

def failed : Read Bool := Prog.perform ReadOp.failed

/-! ## Little-endian numbers -/

def u16Bytes (v : UInt16) : List UInt8 := [v.toUInt8, (v >>> 8).toUInt8]

def u32Bytes (v : UInt32) : List UInt8 :=
  [v.toUInt8, (v >>> 8).toUInt8, (v >>> 16).toUInt8, (v >>> 24).toUInt8]

def readU16 : Read UInt16 := do
  let b ← bytes 2
  pure ((b.getD 0 0).toUInt16 ||| ((b.getD 1 0).toUInt16 <<< 8))

def readU32 : Read UInt32 := do
  let b ← bytes 4
  pure (Bytes.word (b.getD 0 0) (b.getD 1 0) (b.getD 2 0) (b.getD 3 0))

lemma u16_bytes (v : UInt16) : v.toUInt8.toUInt16 ||| ((v >>> 8).toUInt8.toUInt16 <<< 8) = v := by
  apply UInt16.eq_of_toBitVec_eq
  apply BitVec.eq_of_getLsbD_eq
  intro i hi
  simp only [UInt16.toBitVec_or, UInt8.toBitVec_toUInt16, UInt16.toBitVec_toUInt8,
    UInt16.toBitVec_shiftLeft, UInt16.toBitVec_shiftRight]
  interval_cases i <;> simp

def readU8 : Read UInt8 := do
  let b ← bytes 1
  pure (b.getD 0 0)

def readU32s : Nat → Read (List UInt32)
  | 0 => pure []
  | n + 1 => do
    let v ← readU32
    let vs ← readU32s n
    pure (v :: vs)

def u32sBytes (vs : List UInt32) : List UInt8 := vs.flatMap u32Bytes

/-! ## Reading known bytes -/

/-- **`p` reads exactly `bs`** and gives `v`, whatever follows. -/
def Reads {α : Type} (p : Read α) (bs : List UInt8) (v : α) : Prop :=
  ∀ (s : Stream) (post : List UInt8), s.error = false → s.ahead = bs ++ post →
    p.run handler s = (v, s.move bs.length)

lemma ahead_move {s : Stream} {bs post : List UInt8} (h : s.ahead = bs ++ post) :
    (s.move bs.length).ahead = post := by
  have hd : (s.move bs.length).ahead = s.ahead.drop bs.length := by
    rw [Stream.ahead, Stream.ahead, List.drop_drop]
    rfl
  rw [hd, h, List.drop_left]

lemma move_zero (s : Stream) : s.move 0 = s := rfl

section Reads

variable {α β : Type} {p : Read α} {f : α → Read β} {bs bs' : List UInt8} {v : α} {w : β}

lemma Reads.pure (v : α) : Reads (Pure.pure v : Read α) [] v := fun _ _ _ _ => rfl

lemma Reads.bind (hp : Reads p bs v) (hf : Reads (f v) bs' w) : Reads (p >>= f) (bs ++ bs') w := by
  intro s post he h
  rw [List.append_assoc] at h
  rw [Prog.run_bind, hp s (bs' ++ post) he h]
  rw [hf (s.move bs.length) post he (ahead_move h), List.length_append]
  simp only [Stream.move, Nat.add_assoc]

lemma Reads.last (hp : Reads p bs v) (hf : Reads (f v) [] w) : Reads (p >>= f) bs w := by
  have h := hp.bind hf
  rwa [List.append_nil] at h

lemma Reads.bytes (bs : List UInt8) : Reads (Streams.bytes bs.length) bs bs := by
  intro s post he h
  have hle : bs.length ≤ s.ahead.length := by
    rw [h, List.length_append]
    omega
  show Stream.read s bs.length = _
  rw [Stream.read, if_pos hle, h, List.take_left]

lemma Reads.skip (bs : List UInt8) : Reads (Streams.skip bs.length) bs () := fun _ _ _ _ => rfl

lemma Reads.failed : Reads Streams.failed [] false := by
  intro s post he h
  show (s.error, s) = _
  rw [he]
  rfl

lemma Reads.u16 (v : UInt16) : Reads readU16 (u16Bytes v) v := by
  have h : Reads readU16 (u16Bytes v) _ := (Reads.bytes (u16Bytes v)).last (Reads.pure _)
  have hv := u16_bytes v
  simp only [u16Bytes, List.getD_cons_zero, List.getD_cons_succ] at h ⊢
  rwa [hv] at h

lemma Reads.u32 (v : UInt32) : Reads readU32 (u32Bytes v) v := by
  have h : Reads readU32 (u32Bytes v) _ := (Reads.bytes (u32Bytes v)).last (Reads.pure _)
  have hv := Bytes.word_bytes v
  simp only [u32Bytes, List.getD_cons_zero, List.getD_cons_succ] at h ⊢
  rwa [hv] at h

lemma Reads.u8 (v : UInt8) : Reads readU8 [v] v := (Reads.bytes [v]).last (Reads.pure _)

lemma Reads.u32s (vs : List UInt32) : Reads (readU32s vs.length) (u32sBytes vs) vs := by
  induction vs with
  | nil => exact Reads.pure []
  | cons v vs ih => exact (Reads.u32 v).bind (ih.last (Reads.pure _))

end Reads

/-! ## What comes of a program -/

/-- Whatever the file, `p` gives a value with `P`. -/
def Always {α : Type} (p : Read α) (P : α → Prop) : Prop := ∀ s : Stream, P (p.run handler s).1

/-- On a file that starts with `bs`, `p` gives a value with `P`. -/
def Gives {α : Type} (p : Read α) (bs : List UInt8) (P : α → Prop) : Prop :=
  ∀ (s : Stream) (post : List UInt8), s.error = false → s.ahead = bs ++ post → P (p.run handler s).1

section Gives

variable {α β : Type} {p : Read α} {f : α → Read β} {bs bs' : List UInt8} {v : α} {P : β → Prop}

lemma Always.pure {v : β} (h : P v) : Always (Pure.pure v) P := fun _ => h

lemma Always.bind (h : ∀ v, Always (f v) P) : Always (p >>= f) P := by
  intro s
  rw [Prog.run_bind]
  exact h _ _

lemma Always.gives {q : Read β} (h : Always q P) (bs : List UInt8) : Gives q bs P := fun s _ _ _ => h s

lemma Gives.bind (hp : Reads p bs v) (hf : Gives (f v) bs' P) : Gives (p >>= f) (bs ++ bs') P := by
  intro s post he h
  rw [List.append_assoc] at h
  rw [Prog.run_bind, hp s (bs' ++ post) he h]
  exact hf (s.move bs.length) post he (ahead_move h)

end Gives

/-! ## Locality -/

lemma error_stays {α : Type} (p : Read α) (s : Stream) (h : s.error = true) :
    (p.run handler s).2.error = true := by
  refine Prog.run_inv (I := fun s => s.error = true) ?_ p s h
  intro op s hs
  cases op with
  | read len =>
    show (s.read len).2.error = true
    rw [Stream.read]
    split
    · exact hs
    · rfl
  | skip n => exact hs
  | fail => rfl
  | failed => exact hs

/-- The stream is past its limit or has failed. -/
def Lost (limit : Nat) (s : Stream) : Prop := s.error = true ∨ limit < s.pos

lemma lost_stays {α : Type} {limit : Nat} (p : Read α) (s : Stream) (h : Lost limit s) :
    Lost limit (p.run handler s).2 := by
  refine Prog.run_inv (I := Lost limit) ?_ p s h
  intro op s hs
  cases op with
  | read len =>
    show Lost limit (s.read len).2
    rw [Stream.read]
    split
    · rcases hs with hs | hs
      · exact .inl hs
      · exact .inr (Nat.lt_of_lt_of_le hs (Nat.le_add_right _ _))
    · exact .inl rfl
  | skip n =>
    rcases hs with hs | hs
    · exact .inl hs
    · exact .inr (Nat.lt_of_lt_of_le hs (Nat.le_add_right _ _))
  | fail => exact .inl rfl
  | failed => exact hs

/-- One stream is a part of the other, and they stand together. -/
structure Inside (pre piece post : List UInt8) (a b : Stream) : Prop where
  part : a.data = piece
  whole : b.data = pre ++ (piece ++ post)
  pos : b.pos = pre.length + a.pos
  clean : a.error = false
  clean' : b.error = false

lemma Inside.move {pre piece post : List UInt8} {a b : Stream} (h : Inside pre piece post a b)
    (n : Nat) : Inside pre piece post (a.move n) (b.move n) := by
  refine ⟨h.part, h.whole, ?_, h.clean, h.clean'⟩
  show b.pos + n = pre.length + (a.pos + n)
  rw [h.pos, Nat.add_assoc]

lemma Inside.ahead {pre piece post : List UInt8} {a b : Stream} (h : Inside pre piece post a b)
    (hle : a.pos ≤ piece.length) : b.ahead = a.ahead ++ post := by
  rw [Stream.ahead, Stream.ahead, h.part, h.whole, h.pos, List.drop_append, List.drop_append]
  simp [hle]

/-- **Locality.**  A program on a piece of a file does what it does on the piece alone, or it fails on
the piece and is lost in the file. -/
theorem run_local {α : Type} {pre piece post : List UInt8} :
    ∀ (p : Read α) (a b : Stream), Inside pre piece post a b →
      ((p.run handler a).1 = (p.run handler b).1 ∧
          Inside pre piece post (p.run handler a).2 (p.run handler b).2) ∨
        ((p.run handler a).2.error = true ∧
          Lost (pre.length + piece.length) (p.run handler b).2) := by
  intro p
  induction p with
  | done v => exact fun a b h => .inl ⟨rfl, h⟩
  | ask op k ih =>
    intro a b h
    rw [Prog.run_ask, Prog.run_ask]
    cases op with
    | skip n => exact ih () _ _ (h.move n)
    | fail => exact .inr ⟨error_stays _ _ rfl, lost_stays _ _ (.inl rfl)⟩
    | failed =>
      show _ ∨ _
      have he : (handler .failed a).1 = (handler .failed b).1 := h.clean.trans h.clean'.symm
      rw [← he]
      exact ih _ a b h
    | read len =>
      show _ ∨ _
      have ha : handler (.read len) a = a.read len := rfl
      have hb : handler (.read len) b = b.read len := rfl
      rw [ha, hb, Stream.read, Stream.read]
      by_cases hlen : len ≤ a.ahead.length
      · by_cases hzero : len = 0
        · subst hzero
          simp only [Nat.zero_le, if_true, List.take_zero, move_zero]
          exact ih [] a b h
        · have hle : a.pos ≤ piece.length := by
            rw [Stream.ahead, h.part, List.length_drop] at hlen
            omega
          have hah := h.ahead hle
          have hlen' : len ≤ b.ahead.length := by
            rw [hah, List.length_append]
            omega
          have htake : b.ahead.take len = a.ahead.take len := by
            rw [hah, List.take_append_of_le_length hlen]
          rw [if_pos hlen, if_pos hlen', htake]
          exact ih _ _ _ (h.move len)
      · rw [if_neg hlen]
        refine .inr ⟨error_stays _ _ rfl, ?_⟩
        -- the piece is too short: in the file the read runs past its end
        split
        · refine lost_stays _ _ (.inr ?_)
          show pre.length + piece.length < b.pos + len
          rw [Stream.ahead, h.part, List.length_drop] at hlen
          rw [h.pos]
          omega
        · exact lost_stays _ _ (.inl rfl)

/-! ## Truncated files -/

/-- **`p` needs all of `bs`**: cut short, it fails. -/
def Needs {α : Type} (p : Read α) (bs : List UInt8) : Prop :=
  ∀ (s : Stream) (cut : Nat), s.error = false → s.ahead = bs.take cut → cut < bs.length →
    (p.run handler s).2.error = true

section Needs

variable {α β : Type} {p : Read α} {f : α → Read β} {bs bs' : List UInt8} {v : α}

lemma Needs.nil (p : Read α) : Needs p [] := fun _ _ _ _ h => absurd h (Nat.not_lt_zero _)

lemma Needs.bind (hr : Reads p bs v) (hp : Needs p bs) (hf : Needs (f v) bs') :
    Needs (p >>= f) (bs ++ bs') := by
  intro s cut he h hcut
  rw [Prog.run_bind]
  rcases Nat.lt_or_ge cut bs.length with hlt | hge
  · have htake : s.ahead = bs.take cut := by
      rw [h, List.take_append_of_le_length hlt.le]
    exact error_stays _ _ (hp s cut he htake hlt)
  · have htake : s.ahead = bs ++ bs'.take (cut - bs.length) := by
      rw [h, List.take_append, List.take_of_length_le hge]
    rw [hr s _ he htake]
    refine hf (s.move bs.length) (cut - bs.length) he (ahead_move htake) ?_
    rw [List.length_append] at hcut
    omega

lemma Needs.first (hp : Needs p bs) : Needs (p >>= f) bs := by
  intro s cut he h hcut
  rw [Prog.run_bind]
  exact error_stays _ _ (hp s cut he h hcut)

lemma Needs.after (hr : Reads p [] v) (hf : Needs (f v) bs) : Needs (p >>= f) bs :=
  Needs.bind hr (Needs.nil p) hf

lemma Needs.bytes (bs : List UInt8) : Needs (Streams.bytes bs.length) bs := by
  intro s cut he h hcut
  have hlen : ¬ bs.length ≤ s.ahead.length := by
    rw [h, List.length_take]
    omega
  show (Stream.read s bs.length).2.error = true
  rw [Stream.read, if_neg hlen]

lemma Needs.u16 (v : UInt16) : Needs readU16 (u16Bytes v) := (Needs.bytes (u16Bytes v)).first

lemma Needs.u32 (v : UInt32) : Needs readU32 (u32Bytes v) := (Needs.bytes (u32Bytes v)).first

end Needs

/-- The reader never skips. -/
def NoSkip {α : Type} : Read α → Prop
  | .done _ => True
  | .ask (.read _) k => ∀ r, NoSkip (k r)
  | .ask (.skip _) _ => False
  | .ask .fail k => NoSkip (k ())
  | .ask .failed k => ∀ r, NoSkip (k r)

lemma run_data {α : Type} (p : Read α) (s : Stream) : (p.run handler s).2.data = s.data := by
  refine Prog.run_inv (I := fun t => t.data = s.data) ?_ p s rfl
  intro op t ht
  cases op with
  | read len =>
    show (t.read len).2.data = s.data
    rw [Stream.read]
    split <;> exact ht
  | skip n => exact ht
  | fail => exact ht
  | failed => exact ht

lemma run_inside {α : Type} : ∀ (p : Read α) (s : Stream), NoSkip p → s.pos ≤ s.data.length →
    (p.run handler s).2.pos ≤ s.data.length := by
  intro p
  induction p with
  | done v => exact fun s _ h => h
  | ask op k ih =>
    intro s hp h
    rw [Prog.run_ask]
    cases op with
    | read len =>
      have hr : handler (.read len) s = s.read len := rfl
      rw [hr, Stream.read]
      split
      · rename_i hlen
        refine ih _ (s.move len) (hp _) ?_
        rw [Stream.ahead, List.length_drop] at hlen
        show s.pos + len ≤ s.data.length
        omega
      · exact ih _ { s with pos := max s.pos s.data.length, error := true } (hp _)
          (Nat.max_le.2 ⟨h, Nat.le_refl _⟩)
    | skip n => exact absurd hp id
    | fail => exact ih () { s with error := true } hp h
    | failed => exact ih _ s (hp _) h

end Streams
