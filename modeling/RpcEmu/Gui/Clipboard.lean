import RpcEmu.Lib.Block
import Mathlib.Data.UInt

/-!
# The clipboard the guest shares with the host

`clipboard_swi` of `hostclipboard.c`.  Text is held as UCS-4 and goes through the guest's conversion table,
an image is held as the file it is.  The guest asks how long what is held is (`HOST_CHECK`), then for that
many bytes (`HOST_GET`); its own copies come in by `HOST_SET`.  All sizes are `unsigned int`, and a block is
of the size that the 32-bit sum or product given to `malloc` comes to.
-/

namespace RpcEmu.Gui

/-! ## What is held -/

/-- What is on the clipboard; `clip_ucs` and `clip_image` are never both set. -/
inductive Held where
  | nothing
  | text (ucs : List UInt32) (fits : ucs.length < 2 ^ 32)
  | image (file : List UInt8) (fits : file.length < 2 ^ 32)

/-- The variables of `hostclipboard.c`.  There is a table once a guest task has given one. -/
structure Clipboard where
  pollwordAddr : UInt32
  guestAlphabet : UInt32
  guestUcstable : Option (UInt8 → UInt32)
  held : Held
  clipFileType : UInt32

/-- What the calls find around them: the option, whether the `n`th `malloc` of a call has that much, what is
in such a block at first, and whether a front end has set each of its two setters. -/
structure Around where
  clipboardEnabled : Bool
  gives : Nat → UInt32 → Bool
  junk : UInt32 → UInt8
  hostSetter : Bool
  hostImageSetter : Bool

/-- A call's two results, what it writes to the guest and where, the word it knocks at, the blocks it fills,
and what it hands to the front end. -/
structure Outcome where
  clip : Clipboard
  r0 : UInt32
  r1 : UInt32
  toGuest : Option (UInt32 × List UInt8)
  knock : Option UInt32
  blocks : List Buffer
  toHost : Option (UInt32 × List UInt8)

def typeText : UInt32 := 0xfff
def typePng : UInt32 := 0xb60
def typeJpeg : UInt32 := 0xc85

/-- `clipboard_type_is_image`. -/
def typeIsImage (fileType : UInt32) : Bool :=
  fileType == typePng || fileType == typeJpeg

def Outcome.still (clip : Clipboard) : Outcome :=
  { clip, r0 := 0, r1 := 0, toGuest := none, knock := none, blocks := [], toHost := none }

section Conversion

variable (c : Clipboard)

/-- `ucs_to_guest`: Latin-1 as long as there is no table. -/
def ucsToGuest (ucs : UInt32) : UInt8 :=
  match c.guestUcstable with
  | none => if ucs < 0x100 then ucs.toUInt8 else 0
  | some table =>
    match (List.range 256).find? fun i => table (UInt8.ofNat i) == ucs with
    | some i => UInt8.ofNat i
    | none => 0

/-- `guest_to_ucs`. -/
def guestToUcs (ch : UInt8) : UInt32 :=
  match c.guestUcstable with
  | none => ch.toUInt32
  | some table => table ch

/-- `clip_guest_text_len`. -/
def clipGuestTextLen (ucs : List UInt32) : UInt32 :=
  ucs.foldl (fun len ch => if ucsToGuest c ch ≠ 0 then len + 1 else len) 0

def guestText (ucs : List UInt32) : List UInt8 :=
  (ucs.map (ucsToGuest c)).filter (· ≠ 0)

def hostText (guest : List UInt8) : List UInt32 :=
  (guest.map (guestToUcs c)).filter (· ≠ 0xffffffff)

end Conversion

/-! ## The calls -/

section Calls

variable (e : Around) (mem : UInt32 → UInt8) (c : Clipboard)

/-- The bytes that `memcpytohost` reads. -/
def guestBytes (src len : UInt32) : List UInt8 :=
  (List.range len.toNat).map fun i => mem (src + UInt32.ofNat i)

def guestWord (addr : UInt32) : UInt32 :=
  (mem addr).toUInt32 ||| (mem (addr + 1)).toUInt32 <<< 8 ||| (mem (addr + 2)).toUInt32 <<< 16 |||
    (mem (addr + 3)).toUInt32 <<< 24

/-- `SETUP`: the pollword, the alphabet and the table, or the task's leave. -/
def setup (r1 r2 r3 : UInt32) : Outcome :=
  let c := { c with pollwordAddr := r1, guestAlphabet := r2 }
  if r1 ≠ 0 ∧ r3 ≠ 0 then
    let c := { c with guestUcstable := some fun i => guestWord mem (r3 + 4 * i.toUInt32) }
    match c.held with
    | .text (_ :: _) _ => { Outcome.still c with knock := some r1 }
    | _ => Outcome.still c
  else Outcome.still { c with guestUcstable := none }

/-- `HOST_CHECK`. -/
def hostCheck : Outcome :=
  match c.held with
  | .image (b :: file) _ =>
    { Outcome.still c with r0 := UInt32.ofNat (b :: file).length, r1 := c.clipFileType }
  | .text (ch :: ucs) _ =>
    { Outcome.still c with r0 := clipGuestTextLen c (ch :: ucs), r1 := c.clipFileType }
  | _ => Outcome.still c

/-- One character of `HOST_GET`'s loop, which is over once there are `room` of them. -/
def getStep (room : UInt32) (out : Fill UInt8) (ucs : UInt32) : Fill UInt8 :=
  if out.len < room then
    let ch := ucsToGuest c ucs
    if ch ≠ 0 then out.push ch else out
  else out

/-- `HOST_GET`: as much as there is room for, and after a text its terminator. -/
def hostGet (r1 room : UInt32) : Outcome :=
  if room = 0 then Outcome.still c
  else
    match c.held with
    | .image (b :: file) _ =>
      let n := if UInt32.ofNat (b :: file).length < room then UInt32.ofNat (b :: file).length else room
      { Outcome.still c with r0 := n, toGuest := some (r1, (b :: file).take n.toNat) }
    | .text ucs _ =>
      if e.gives 0 (room + 1) then
        let filled := ucs.foldl (getStep c room) (Fill.malloc 1 (room + 1) e.junk)
        let out := filled.block.write filled.len 0
        { Outcome.still c with
          r0 := filled.len, toGuest := some (r1, out.first (filled.len + 1)), blocks := [out.toBuffer] }
      else Outcome.still c
    | _ => Outcome.still c

/-- One character of `HOST_SET`'s loop. -/
def setStep (out : Fill UInt32) (guest : UInt8) : Fill UInt32 :=
  let ch := guestToUcs c guest
  if ch ≠ 0xffffffff then out.push ch else out

def utf8Rest (bits : UInt32) : UInt8 :=
  ((0x80 : UInt32) ||| (bits &&& 0x3f)).toUInt8

def utf8Bytes (ch : UInt32) : List UInt8 :=
  if ch < 0x80 then [ch.toUInt8]
  else if ch < 0x800 then [((0xc0 : UInt32) ||| ch >>> 6).toUInt8, utf8Rest ch]
  else if ch < 0x10000 then [((0xe0 : UInt32) ||| ch >>> 12).toUInt8, utf8Rest (ch >>> 6), utf8Rest ch]
  else
    [((0xf0 : UInt32) ||| ch >>> 18).toUInt8, utf8Rest (ch >>> 12), utf8Rest (ch >>> 6), utf8Rest ch]

/-- One character of `clip_to_utf8`'s loop, which gives up when the next does not fit. -/
def utf8Step (buflen : UInt32) (buf : Fill UInt8) (ch : UInt32) : Except (Fill UInt8) (Fill UInt8) :=
  if buf.len + UInt32.ofNat (utf8Bytes ch).length ≥ buflen then .error buf
  else .ok ((utf8Bytes ch).foldl Fill.push buf)

/-- `clip_to_utf8`: the block as it is left, and the bytes if all of them went in. -/
def clipToUtf8 (ucs : List UInt32) (buflen : UInt32) (buf : Fill UInt8) : Buffer × Option (List UInt8) :=
  if buflen = 0 then (buf.block.toBuffer, none)
  else
    match ucs.foldlM (utf8Step buflen) buf with
    | .error buf => (buf.block.toBuffer, none)
    | .ok buf => ((buf.block.write buf.len 0).toBuffer, some (buf.block.first buf.len))

/-- `memcpytohost`, into a block of that size. -/
def fetch (r1 r2 : UInt32) : Fill UInt8 :=
  (guestBytes mem r1 r2).foldl Fill.push (Fill.malloc 1 r2 e.junk)

/-- The text as UCS-4, in a block with room for `r2` characters and the terminator. -/
def convert (guest : List UInt8) (r2 : UInt32) : Fill UInt32 :=
  guest.foldl (setStep c) (Fill.malloc 4 ((r2 + 1) * 4) fun i => (e.junk i).toUInt32)

def handOver (text : List UInt32) (out : UInt32) : List Buffer × Option (UInt32 × List UInt8) :=
  if e.hostSetter ∧ e.gives 2 (out * 4 + 1) then
    let (utf8, bytes) := clipToUtf8 text (out * 4 + 1) (Fill.malloc 1 (out * 4 + 1) e.junk)
    ([utf8], bytes.map (typeText, ·))
  else ([], none)

/-- `HOST_SET`, for text: it is converted, held and handed to the front end. -/
def setText (r1 r2 : UInt32) : Outcome :=
  if e.gives 0 r2 ∧ e.gives 1 ((r2 + 1) * 4) then
    let input := fetch e mem r1 r2
    let filled := convert e c (input.block.first r2) r2
    let ucs := filled.block.write filled.len 0
    let text := ucs.first filled.len
    let clip := { c with
      held := .text text (by simpa [text] using filled.len.toNat_lt), clipFileType := typeText }
    let given := handOver e text filled.len
    { Outcome.still clip with
      blocks := input.block.toBuffer :: ucs.toBuffer :: given.1, toHost := given.2 }
  else Outcome.still c

/-- `HOST_SET`, for an image: it is held as it comes. -/
def setImage (r1 r2 r3 : UInt32) : Outcome :=
  if e.gives 0 r2 then
    let image := fetch e mem r1 r2
    let file := image.block.first r2
    let clip := { c with
      held := .image file (by simpa [file] using r2.toNat_lt), clipFileType := r3 }
    { Outcome.still clip with
      blocks := [image.block.toBuffer], toHost := if e.hostImageSetter then some (r3, file) else none }
  else Outcome.still c

/-- `HOST_SET`. -/
def hostSet (r1 r2 r3 : UInt32) : Outcome :=
  if r2 = 0 then Outcome.still c
  else if typeIsImage r3 then setImage e mem c r1 r2 r3
  else if r3 ≠ typeText then Outcome.still c
  else setText e mem c r1 r2

/-- `clipboard_swi`. -/
def clipboardSwi (r0 r1 r2 r3 : UInt32) : Outcome :=
  if !e.clipboardEnabled then Outcome.still c
  else
    match r0 with
    | 1 => setup mem c r1 r2 r3
    | 2 => hostSet e mem c r1 r2 r3
    | 3 => hostGet e c r1 r2
    | 4 => hostCheck c
    | _ => Outcome.still c

end Calls

open Fill

variable {e : Around} {mem : UInt32 → UInt8} {c : Clipboard} {r1 r2 r3 room : UInt32} {ucs : List UInt32}

/-! ## Conversion -/

lemma guestText_cons (ch : UInt32) :
    guestText c (ch :: ucs) =
      if ucsToGuest c ch ≠ 0 then ucsToGuest c ch :: guestText c ucs else guestText c ucs := by
  simp [guestText, List.filter_cons]

lemma hostText_cons (ch : UInt8) (guest : List UInt8) :
    hostText c (ch :: guest) =
      if guestToUcs c ch ≠ 0xffffffff then guestToUcs c ch :: hostText c guest else hostText c guest := by
  simp [hostText, List.filter_cons]

lemma length_guestText (ucs : List UInt32) : (guestText c ucs).length ≤ ucs.length := by
  simpa [guestText] using List.length_filter_le (· ≠ 0) (ucs.map (ucsToGuest c))

lemma length_hostText (guest : List UInt8) : (hostText c guest).length ≤ guest.length := by
  simpa [hostText] using List.length_filter_le (· ≠ 0xffffffff) (guest.map (guestToUcs c))

lemma count_guestText {len : UInt32} (hroom : len.toNat + (guestText c ucs).length < 2 ^ 32) :
    (ucs.foldl (fun len ch => if ucsToGuest c ch ≠ 0 then len + 1 else len) len).toNat =
      len.toNat + (guestText c ucs).length := by
  induction ucs generalizing len with
  | nil => simp [guestText]
  | cons ch ucs ih =>
    rw [List.foldl_cons]
    rw [guestText_cons] at hroom ⊢
    split at hroom
    next hch =>
      rw [List.length_cons] at hroom
      have hnext : (len + 1).toNat = len.toNat + 1 := by
        rw [UInt32.toNat_add, UInt32.toNat_one, Nat.mod_eq_of_lt (by omega)]
      rw [if_pos hch, if_pos hch, ih (by omega), hnext, List.length_cons]
      omega
    next hch => rw [if_neg hch, if_neg hch, ih hroom]

/-- **What is counted.** -/
lemma clipGuestTextLen_toNat (hfits : ucs.length < 2 ^ 32) :
    (clipGuestTextLen c ucs).toNat = (guestText c ucs).length := by
  have hlength := length_guestText (c := c) ucs
  rw [clipGuestTextLen, count_guestText (by simp; omega), UInt32.toNat_zero, Nat.zero_add]

/-! ## The loops -/

variable {width : Nat} {size : UInt32}

variable (c ucs) in
lemma holds_get {out : Fill UInt8} {xs : List UInt8} (h : Holds width size out xs)
    (hxs : xs.length ≤ room.toNat) :
    Holds width size (ucs.foldl (getStep c room) out)
      (xs ++ (guestText c ucs).take (room.toNat - xs.length)) := by
  have hroom := room.toNat_lt
  induction ucs generalizing out xs with
  | nil => simpa [guestText] using h
  | cons ch ucs ih =>
    rw [List.foldl_cons, guestText_cons, getStep]
    rcases Nat.lt_or_ge xs.length room.toNat with hlt | hge
    · rw [if_pos (UInt32.lt_iff_toNat_lt.mpr (h.len ▸ hlt))]
      dsimp only
      split
      next hch =>
        have hnext := ih (h.push (a := ucsToGuest c ch) (by omega)) (by simp; omega)
        have htake : room.toNat - xs.length = room.toNat - (xs.length + 1) + 1 := by omega
        rw [htake, List.take_succ_cons]
        simpa using hnext
      next hch => exact ih h hxs
    · have hnot : ¬out.len < room := by
        rw [UInt32.lt_iff_toNat_lt, h.len]
        omega
      have hnone : room.toNat - xs.length = 0 := by omega
      rw [if_neg hnot]
      simpa [hnone] using ih h hxs

variable (c) in
lemma holds_set {out : Fill UInt32} {xs : List UInt32} (guest : List UInt8) (h : Holds width size out xs)
    (hroom : xs.length + guest.length < 2 ^ 32) :
    Holds width size (guest.foldl (setStep c) out) (xs ++ hostText c guest) := by
  induction guest generalizing out xs with
  | nil => simpa [hostText] using h
  | cons ch guest ih =>
    rw [List.length_cons] at hroom
    rw [List.foldl_cons, hostText_cons, setStep]
    split
    next hch =>
      have hnext := ih (h.push (a := guestToUcs c ch) (by omega)) (by simp; omega)
      simpa using hnext
    next hch => exact ih h (by omega)

lemma length_utf8Bytes (ch : UInt32) : (utf8Bytes ch).length ≤ 4 := by
  unfold utf8Bytes
  split_ifs <;> simp

lemma length_utf8 (ucs : List UInt32) : (ucs.flatMap utf8Bytes).length ≤ 4 * ucs.length := by
  induction ucs with
  | nil => simp
  | cons ch ucs ih =>
    have hbytes := length_utf8Bytes ch
    rw [List.flatMap_cons, List.length_append, List.length_cons]
    omega

variable (ucs) in
lemma holds_utf8 (buflen : UInt32) {buf : Fill UInt8} {xs : List UInt8} (h : Holds width size buf xs)
    (hroom : xs.length + 4 * ucs.length < buflen.toNat) :
    ∃ buf', ucs.foldlM (utf8Step buflen) buf = .ok buf' ∧
      Holds width size buf' (xs ++ ucs.flatMap utf8Bytes) := by
  have hbuflen := buflen.toNat_lt
  induction ucs generalizing buf xs with
  | nil => exact ⟨buf, rfl, by simpa using h⟩
  | cons ch ucs ih =>
    rw [List.length_cons] at hroom
    have hbytes := length_utf8Bytes ch
    have hlen : (buf.len + UInt32.ofNat (utf8Bytes ch).length).toNat = xs.length + (utf8Bytes ch).length := by
      rw [UInt32.toNat_add, h.len, UInt32.toNat_ofNat_of_lt' (by rw [UInt32.size]; omega),
        Nat.mod_eq_of_lt (by omega)]
    have hfits : ¬buf.len + UInt32.ofNat (utf8Bytes ch).length ≥ buflen := by
      rw [ge_iff_le, UInt32.le_iff_toNat_le, hlen]
      omega
    obtain ⟨buf', hbuf', hholds⟩ := ih (h.pushAll (utf8Bytes ch) (by omega)) (by simp; omega)
    refine ⟨buf', ?_, by simpa using hholds⟩
    rw [List.foldlM_cons, utf8Step, if_neg hfits]
    exact hbuf'

/-! ## What is promised -/

def Held.isText : Held → Bool
  | .text _ _ => true
  | _ => false

/-- All of what is held, as `n` bytes and for a text its terminator after them. -/
def Transferred (c : Clipboard) (n r1 : UInt32) (get : Outcome) : Prop :=
  match c.held with
  | .nothing => get.toGuest = none
  | .text ucs _ =>
    get.toGuest = some (r1, guestText c ucs ++ [0]) ∧ (guestText c ucs).length = n.toNat ∧ get.r0 = n
  | .image file _ => get.toGuest = some (r1, file) ∧ file.length = n.toNat ∧ get.r0 = n

lemma hostCheck_text {fits : ucs.length < 2 ^ 32} (hheld : c.held = .text ucs fits) :
    (hostCheck c).r0.toNat = (guestText c ucs).length := by
  unfold hostCheck
  rw [hheld]
  cases ucs with
  | nil => rfl
  | cons ch ucs => exact clipGuestTextLen_toNat fits

lemma hostCheck_image {file : List UInt8} {fits : file.length < 2 ^ 32} (hheld : c.held = .image file fits) :
    (hostCheck c).r0.toNat = file.length := by
  unfold hostCheck
  rw [hheld]
  cases file with
  | nil => rfl
  | cons b file => exact UInt32.toNat_ofNat_of_lt' fits

lemma hostCheck_nothing (hheld : c.held = .nothing) : (hostCheck c).r0 = 0 := by
  unfold hostCheck
  rw [hheld]
  rfl

variable (r1) in
lemma hostGet_text {fits : ucs.length < 2 ^ 32} (hheld : c.held = .text ucs fits) (hzero : room ≠ 0)
    (hroom : room ≠ 0xffffffff) (hgives : e.gives 0 (room + 1) = true) :
    (hostGet e c r1 room).toGuest = some (r1, (guestText c ucs).take room.toNat ++ [0]) ∧
      (hostGet e c r1 room).r0.toNat = ((guestText c ucs).take room.toNat).length ∧
        ∀ b ∈ (hostGet e c r1 room).blocks, b.InBounds := by
  have hlt : room.toNat + 1 < 2 ^ 32 := by
    have := room.toNat_lt
    have hne : room.toNat ≠ 0xffffffff := fun heq => hroom (UInt32.toNat_inj.mp heq)
    omega
  have hsize : (room + 1).toNat = room.toNat + 1 := by
    rw [UInt32.toNat_add, UInt32.toNat_one, Nat.mod_eq_of_lt hlt]
  have hfilled : Holds 1 (room + 1) (ucs.foldl (getStep c room) (Fill.malloc 1 (room + 1) e.junk))
      ((guestText c ucs).take room.toNat) := by
    simpa using holds_get c ucs (holds_malloc 1 (room + 1) e.junk) (Nat.zero_le room.toNat)
  have htake := List.length_take_le room.toNat (guestText c ucs)
  have hout := hfilled.push (a := 0) (by omega)
  unfold hostGet
  rw [if_neg hzero, hheld]
  dsimp only
  rw [if_pos hgives]
  have hfits : ((guestText c ucs).take room.toNat ++ [0]).length * 1 ≤ (room + 1).toNat := by
    rw [hsize, List.length_append, List.length_singleton]
    omega
  refine ⟨congrArg (fun bytes => some (r1, bytes)) (hout.first hfits), hfilled.len, ?_⟩
  intro b hb
  obtain rfl := List.mem_singleton.mp hb
  exact hout.inBounds hfits

/-- **No `room` but the one there is no size for** has `HOST_GET` write past its block. -/
lemma hostGet_inBounds (hroom : c.held.isText = true → room ≠ 0xffffffff) :
    ∀ b ∈ (hostGet e c r1 room).blocks, b.InBounds := by
  by_cases hzero : room = 0
  · simp [hostGet, hzero, Outcome.still]
  · cases hheld : c.held with
    | nothing => simp [hostGet, hheld, Outcome.still]
    | image file fits => cases file <;> simp [hostGet, hheld, hzero, Outcome.still]
    | text ucs fits =>
      rw [hheld] at hroom
      by_cases hgives : e.gives 0 (room + 1) = true
      · exact (hostGet_text r1 hheld hzero (hroom rfl) hgives).2.2
      · simp [hostGet, hheld, hgives, Outcome.still]

/-- **`HOST_CHECK` and then `HOST_GET`.** -/
lemma transferred (hzero : (hostCheck c).r0 ≠ 0)
    (htext : c.held.isText = true →
      (hostCheck c).r0 ≠ 0xffffffff ∧ e.gives 0 ((hostCheck c).r0 + 1) = true) :
    Transferred c (hostCheck c).r0 r1 (hostGet e c r1 (hostCheck c).r0) := by
  cases hheld : c.held with
  | nothing => exact absurd (hostCheck_nothing hheld) hzero
  | text ucs fits =>
    have hcheck := hostCheck_text hheld
    rw [hheld] at htext
    obtain ⟨hroom, hgives⟩ := htext rfl
    obtain ⟨hget, hr0, -⟩ := hostGet_text r1 hheld hzero hroom hgives
    rw [hcheck, List.take_length] at hget hr0
    unfold Transferred
    rw [hheld]
    exact ⟨hget, hcheck.symm, UInt32.toNat_inj.mp (hr0.trans hcheck.symm)⟩
  | image file fits =>
    have hcheck := hostCheck_image hheld
    unfold Transferred
    rw [hheld]
    cases file with
    | nil => exact absurd (UInt32.toNat_inj.mp hcheck) hzero
    | cons b file =>
      have hn : UInt32.ofNat (b :: file).length = (hostCheck c).r0 := by
        rw [← hcheck, UInt32.ofNat_toNat]
      have hget : hostGet e c r1 (hostCheck c).r0 =
          { Outcome.still c with
            r0 := (hostCheck c).r0, toGuest := some (r1, (b :: file).take (hostCheck c).r0.toNat) } := by
        unfold hostGet
        rw [if_neg hzero, hheld]
        dsimp only
        rw [hn, if_neg (UInt32.lt_irrefl _)]
      rw [hget, hcheck, List.take_length]
      exact ⟨rfl, rfl, rfl⟩

/-! ## What the guest puts there -/

variable (mem r1 r2) in
lemma length_guestBytes : (guestBytes mem r1 r2).length = r2.toNat := by
  simp [guestBytes]

variable (e mem r1 r2) in
lemma holds_fetch : Holds 1 r2 (fetch e mem r1 r2) (guestBytes mem r1 r2) := by
  have hlt := r2.toNat_lt
  have hholds := (holds_malloc 1 r2 e.junk).pushAll (guestBytes mem r1 r2)
    (by rw [length_guestBytes, List.length_nil]; omega)
  rwa [List.nil_append] at hholds

lemma fetch_inBounds : (fetch e mem r1 r2).block.InBounds :=
  (holds_fetch e mem r1 r2).inBounds (by rw [length_guestBytes, Nat.mul_one])

lemma first_fetch : (fetch e mem r1 r2).block.first r2 = guestBytes mem r1 r2 := by
  have hholds := holds_fetch e mem r1 r2
  rw [← List.append_nil (guestBytes mem r1 r2)] at hholds
  exact hholds.first_of_append (length_guestBytes mem r1 r2).symm (by rw [length_guestBytes, Nat.mul_one])

variable (e c r2) in
lemma holds_convert (guest : List UInt8) (hguest : guest.length < 2 ^ 32) :
    Holds 4 ((r2 + 1) * 4) (convert e c guest r2) (hostText c guest) := by
  have hholds := holds_set c guest
    (holds_malloc 4 ((r2 + 1) * 4) fun i => (e.junk i).toUInt32) (by rw [List.length_nil]; omega)
  rwa [List.nil_append] at hholds

lemma clipToUtf8_whole {buflen : UInt32} (junk : UInt32 → UInt8) (hbuflen : buflen.toNat = 4 * ucs.length + 1) :
    ∃ b : Buffer, b.InBounds ∧
      clipToUtf8 ucs buflen (Fill.malloc 1 buflen junk) = (b, some (ucs.flatMap utf8Bytes)) := by
  have hlt := buflen.toNat_lt
  obtain ⟨buf, hbuf, hholds⟩ :=
    holds_utf8 ucs buflen (holds_malloc 1 buflen junk) (by rw [List.length_nil]; omega)
  rw [List.nil_append] at hholds
  have hlength := length_utf8 ucs
  have hout := hholds.push (a := 0) (by omega)
  have hne : buflen ≠ 0 := by
    rintro rfl
    simp at hbuflen
  refine ⟨_, hout.inBounds (by rw [List.length_append, List.length_singleton]; omega), ?_⟩
  rw [clipToUtf8, if_neg hne, hbuf, ← hholds.first (by omega)]
  rfl

/-- **A text of the guest's** is handed to the front end in full. -/
lemma handOver_whole {text : List UInt32} {out : UInt32} (hout : out.toNat = text.length)
    (hlength : text.length < 0x3fffffff) :
    (∀ b ∈ (handOver e text out).1, b.InBounds) ∧
      ∀ given ∈ (handOver e text out).2, given = (typeText, text.flatMap utf8Bytes) := by
  have hbuflen : (out * 4 + 1).toNat = 4 * text.length + 1 := by
    rw [UInt32.toNat_add, UInt32.toNat_mul, hout]
    change (text.length * 4 % 2 ^ 32 + 1) % 2 ^ 32 = _
    omega
  obtain ⟨b, hb, hutf8⟩ := clipToUtf8_whole e.junk hbuflen
  unfold handOver
  rw [hutf8]
  split_ifs <;> simp [hb]

/-- **No `r2` whose block has a size** has `HOST_SET` write past one. -/
lemma hostSet_inBounds (hr2 : r3 = typeText → r2 < 0x3fffffff) :
    ∀ b ∈ (hostSet e mem c r1 r2 r3).blocks, b.InBounds := by
  unfold hostSet
  split_ifs with hzero himage htext
  · simp [Outcome.still]
  · unfold setImage
    split
    next hgives =>
      intro b hb
      obtain rfl := List.mem_singleton.mp hb
      exact fetch_inBounds
    next hgives => simp [Outcome.still]
  · simp [Outcome.still]
  · have hlt := UInt32.lt_iff_toNat_lt.mp (hr2 (not_not.mp htext))
    change r2.toNat < 0x3fffffff at hlt
    have hguest := length_guestBytes mem r1 r2
    have hlength := length_hostText (c := c) (guestBytes mem r1 r2)
    have hsize : ((r2 + 1) * 4).toNat = 4 * (r2.toNat + 1) := by
      rw [UInt32.toNat_mul, UInt32.toNat_add, UInt32.toNat_one]
      change (r2.toNat + 1) % 2 ^ 32 * 4 % 2 ^ 32 = _
      omega
    have hfilled := holds_convert e c r2 (guestBytes mem r1 r2) (by omega)
    have hucs := hfilled.push (a := 0) (by omega)
    unfold setText
    split
    next hgives =>
      dsimp only
      rw [first_fetch]
      intro b hb
      rcases List.mem_cons.mp hb with rfl | hb
      · exact fetch_inBounds
      rcases List.mem_cons.mp hb with rfl | hb
      · exact hucs.inBounds (by rw [hsize, List.length_append, List.length_singleton]; omega)
      · have hlen := hfilled.len
        exact (handOver_whole (Block.length_first _ _).symm (by rw [Block.length_first]; omega)).1 b hb
    next hgives => simp [Outcome.still]

/-! ## Any call -/

/-- **What the guest is promised**, whatever is held, whatever table there is, and whatever it asks with:
after a length other than 0 all of it comes, unless it is a text and there is no block for it, and no block is
written past its end but by a length that the size of a block cannot come to. -/
theorem clipboard_transfers (e : Around) (mem : UInt32 → UInt8) (c : Clipboard) (q1 q2 q3 r1 r3 : UInt32) :
    let n := (clipboardSwi e mem c 4 q1 q2 q3).r0
    let get := clipboardSwi e mem c 3 r1 n r3
    (n = 0 → get.toGuest = none) ∧
      (n ≠ 0 → (c.held.isText = true → n ≠ 0xffffffff ∧ e.gives 0 (n + 1) = true) →
        Transferred c n r1 get) ∧
      (∀ r2, (c.held.isText = true → r2 ≠ 0xffffffff) →
        ∀ b ∈ (clipboardSwi e mem c 3 r1 r2 r3).blocks, b.InBounds) ∧
      ∀ r2 r3, (r3 = typeText → r2 < 0x3fffffff) →
        ∀ b ∈ (clipboardSwi e mem c 2 r1 r2 r3).blocks, b.InBounds := by
  cases hen : e.clipboardEnabled with
  | false => simp [clipboardSwi, hen, Outcome.still]
  | true =>
    have hcheck : clipboardSwi e mem c 4 q1 q2 q3 = hostCheck c := by simp [clipboardSwi, hen]
    have hget : ∀ r2, clipboardSwi e mem c 3 r1 r2 r3 = hostGet e c r1 r2 := by simp [clipboardSwi, hen]
    have hset : ∀ r2 r3, clipboardSwi e mem c 2 r1 r2 r3 = hostSet e mem c r1 r2 r3 := by
      simp [clipboardSwi, hen]
    intro n get
    refine ⟨fun hzero => ?_, fun hzero htext => ?_, fun r2 hr2 => ?_, fun r2 r3 hr2 => ?_⟩
    · change (clipboardSwi e mem c 3 r1 n r3).toGuest = none
      rw [hzero, hget]
      rfl
    · have hn : n = (hostCheck c).r0 := congrArg Outcome.r0 hcheck
      change Transferred c n r1 (clipboardSwi e mem c 3 r1 n r3)
      rw [hget, hn]
      rw [hn] at hzero htext
      exact transferred hzero htext
    · rw [hget]
      exact hostGet_inBounds hr2
    · rw [hset]
      exact hostSet_inBounds hr2

def around : Around :=
  ⟨true, fun _ _ => true, fun _ => 0xaa, true, true⟩

def holding (ucs : List UInt32) (fits : ucs.length < 2 ^ 32) : Clipboard :=
  ⟨0, 0, none, .text ucs fits, typeText⟩

theorem clipboard_transfers_hi :
    (clipboardSwi around (fun _ => 0) (holding [0x48, 0x100, 0x69] (by decide)) 3 0x8000 2 0).toGuest =
      some (0x8000, [0x48, 0x69, 0]) ∧
    ∀ b ∈ (clipboardSwi around (fun _ => 0x41) (holding [] (by decide)) 2 0x8000 3 typeText).blocks,
      b.InBounds :=
  have h := clipboard_transfers around (fun _ => 0) (holding [0x48, 0x100, 0x69] (by decide)) 0 0 0 0x8000 0
  have h' := clipboard_transfers around (fun _ => 0x41) (holding [] (by decide)) 0 0 0 0x8000 0
  ⟨(h.2.1 (by decide) fun _ => ⟨by decide, rfl⟩).1, h'.2.2.2 3 typeText fun _ => by decide⟩

theorem not_clipboard_transfers :
    ¬Transferred (holding [0x100] (by decide))
        (clipboardSwi around (fun _ => 0) (holding [0x100] (by decide)) 4 0 0 0).r0 0x8000
        (clipboardSwi around (fun _ => 0) (holding [0x100] (by decide)) 3 0x8000
          (clipboardSwi around (fun _ => 0) (holding [0x100] (by decide)) 4 0 0 0).r0 0) ∧
      ¬∀ b ∈ (clipboardSwi around (fun _ => 0) (holding [0x41] (by decide)) 3 0x8000 0xffffffff 0).blocks,
        b.InBounds := by
  constructor
  · rintro ⟨hget, -⟩
    exact absurd hget (by decide)
  · intro h
    exact absurd (h ⟨1, 0, [1, 0]⟩ (List.mem_singleton_self _)) (by decide)

end RpcEmu.Gui
