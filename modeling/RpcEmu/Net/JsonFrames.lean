import RpcEmu.Net.Base64
import Mathlib.Data.Nat.Digits.Lemmas

/-!
# A frame there and back

`net_json_encode` of `net_json.c`, and `net_json_decode` with the buffer that it writes to.

* **Keys.**  A key is found at the first place that its quoted name stands at.  No name starts in a number, and in
  the text around the numbers each stands once (`jsonValueOf_skip`).
* `netJsonDecodeInto` is the decoder as it works on memory; what it returns is `netJsonDecode`.
-/

namespace RpcEmu.Net

/-! ## Numbers -/

/-- `%u`. -/
def decimal (n : Nat) : List UInt8 :=
  if n = 0 then [48] else (Nat.digits 10 n).reverse.map fun d => UInt8.ofNat (48 + d)

lemma isDigit_ofNat : ∀ d < 10, isDigit (UInt8.ofNat (48 + d)) = true ∧ (UInt8.ofNat (48 + d)).toNat = 48 + d := by
  decide

lemma isDigit_decimal {n : Nat} {b : UInt8} (hb : b ∈ decimal n) : isDigit b = true := by
  unfold decimal at hb
  split at hb
  · rw [List.mem_singleton.mp hb]
    rfl
  · obtain ⟨d, hd, rfl⟩ := List.mem_map.mp hb
    exact (isDigit_ofNat d (Nat.digits_lt_base (by omega) (List.mem_reverse.mp hd))).1

lemma decimal_ne_nil (n : Nat) : decimal n ≠ [] := by
  unfold decimal
  split
  · exact List.cons_ne_nil _ _
  next hn => simpa [Nat.digits_ne_nil_iff_ne_zero] using hn

lemma fold_digits {ds : List Nat} (hds : ∀ d ∈ ds, d < 10) :
    (ds.reverse.map fun d => UInt8.ofNat (48 + d)).foldl (fun (n : Int) b => 10 * n + (b.toNat - 48)) 0 =
      (Nat.ofDigits 10 ds : Nat) := by
  induction ds with
  | nil => rfl
  | cons d ds ih =>
    have ih := ih fun d' hd' => hds d' (List.mem_cons_of_mem d hd')
    have hd := (isDigit_ofNat d (hds d List.mem_cons_self)).2
    rw [List.reverse_cons, List.map_append, List.foldl_append, ih, Nat.ofDigits_cons]
    simp only [List.map_cons, List.map_nil, List.foldl_cons, List.foldl_nil, hd]
    push_cast
    omega

lemma fold_decimal (n : Nat) :
    (decimal n).foldl (fun (n : Int) b => 10 * n + (b.toNat - 48)) 0 = n := by
  unfold decimal
  split
  next hn => simp [hn]
  next hn => rw [fold_digits fun d hd => Nat.digits_lt_base (by omega) hd, Nat.ofDigits_digits]

lemma isSpace_of_isDigit {b : UInt8} (hb : isDigit b = true) : isSpace b = false ∧ b ≠ 45 ∧ b ≠ 43 := by
  have hall : ∀ n : Fin 256, isDigit (UInt8.ofNat n) = true →
      isSpace (UInt8.ofNat n) = false ∧ UInt8.ofNat n ≠ 45 ∧ UInt8.ofNat n ≠ 43 := by decide +kernel
  have hthis := hall ⟨b.toNat, b.toNat_lt⟩
  rw [UInt8.ofNat_toNat] at hthis
  exact hthis hb

lemma strtol_digit {b : UInt8} (hb : isDigit b = true) (s : List UInt8) :
    strtol (b :: s) = some ((b :: s.takeWhile isDigit).foldl (fun (n : Int) b => 10 * n + (b.toNat - 48)) 0,
      s.dropWhile isDigit) := by
  obtain ⟨hspace, hminus, hplus⟩ := isSpace_of_isDigit hb
  unfold strtol
  rw [List.dropWhile_cons_of_neg (by simp [hspace])]
  simp [hminus, hplus, hb]

/-- **A number** is read as it was written, up to what is no digit. -/
lemma strtol_decimal (n : Nat) {rest : List UInt8} (hrest : ∀ b ∈ rest.head?, isDigit b = false) :
    strtol (decimal n ++ rest) = some ((n : Int), rest) := by
  obtain ⟨b, s, hbs⟩ := List.exists_cons_of_ne_nil (decimal_ne_nil n)
  have hb : isDigit b = true := isDigit_decimal (hbs ▸ List.mem_cons_self)
  have hs : ∀ c ∈ s, isDigit c = true := fun c hc => isDigit_decimal (hbs ▸ List.mem_cons_of_mem b hc)
  have htake : (s ++ rest).takeWhile isDigit = s := by
    rw [List.takeWhile_append_of_pos hs]
    cases rest with
    | nil => simp
    | cons c rest => rw [List.takeWhile_cons_of_neg (by simp [hrest c rfl]), List.append_nil]
  have hdrop : (s ++ rest).dropWhile isDigit = rest := by
    rw [List.dropWhile_append_of_pos hs]
    cases rest with
    | nil => rfl
    | cons c rest => rw [List.dropWhile_cons_of_neg (by simp [hrest c rfl])]
  have hfold := fold_decimal n
  rw [hbs] at hfold ⊢
  rw [List.cons_append, strtol_digit hb, htake, hdrop, hfold]

/-! ## The line -/

def macText : List UInt8 → List UInt8
  | [] => []
  | [a] => decimal a.toNat
  | a :: mac => decimal a.toNat ++ ascii ", ".toList ++ macText mac

def frameByte (frame : List UInt8) (i : Nat) : UInt8 := frame.getD i 0

def jsonHead (frame : List UInt8) : List UInt8 :=
  ascii "\x7b\"frame_type\": ".toList ++
    decimal ((frameByte frame 12).toNat * 256 + (frameByte frame 13).toNat) ++
  ascii ", \"src\": [".toList ++ macText ((frame.drop 6).take 6) ++
  ascii "], \"dst\": [".toList ++ macText (frame.take 6) ++
  ascii "], \"data\": \"".toList

/-- `net_json_encode`. -/
def netJsonEncode (frame : List UInt8) (outSize : Nat) : Option (List UInt8) :=
  if frame.length < netJsonHeaderLen ∨ netJsonMaxFrame < frame.length then none
  else
    let payload := frame.drop netJsonHeaderLen
    if outSize < 160 + (payload.length + 2) / 3 * 4 + 2 then none
    else
      let head := jsonHead frame
      if outSize ≤ head.length then none
      else
        let used := head ++ base64Encode payload
        if outSize ≤ used.length + 3 then none else some (used ++ ascii "\"\x7d\n".toList)

/-! ## Keys -/

def differ : List UInt8 → List UInt8 → Bool
  | a :: as, b :: bs => a != b || differ as bs
  | _, _ => false

def clear (needle : List UInt8) : List UInt8 → Bool
  | [] => true
  | b :: text => differ needle (b :: text) && clear needle text

lemma not_isPrefixOf_of_differ {needle text : List UInt8} (h : differ needle text = true) (rest : List UInt8) :
    needle.isPrefixOf (text ++ rest) = false := by
  induction needle generalizing text with
  | nil => simp [differ] at h
  | cons a needle ih =>
    cases text with
    | nil => simp [differ] at h
    | cons b text =>
      rw [differ, Bool.or_eq_true, bne_iff_ne] at h
      rw [List.cons_append, List.isPrefixOf]
      rcases h with hne | hrest
      · simp [hne]
      · simp [ih hrest]

lemma strstr_clear {needle text : List UInt8} (h : clear needle text = true) (rest : List UInt8) :
    strstr (text ++ rest) needle = strstr rest needle := by
  induction text with
  | nil => rfl
  | cons b text ih =>
    rw [clear, Bool.and_eq_true] at h
    have hno := not_isPrefixOf_of_differ h.1 rest
    rw [List.cons_append] at hno
    rw [List.cons_append, strstr, List.tails_cons, List.find?_cons_of_neg (by simp [hno])]
    exact ih h.2

lemma clear_of_notMem {a : UInt8} (needle : List UInt8) {text : List UInt8} (h : a ∉ text) :
    clear (a :: needle) text = true := by
  induction text with
  | nil => rfl
  | cons b text ih =>
    rw [List.mem_cons, not_or] at h
    simp [clear, differ, h.1, ih h.2]

lemma jsonValueOf_skip {key text : List UInt8} (h : clear (34 :: key ++ [34]) text = true) (rest : List UInt8) :
    jsonValueOf (text ++ rest) key = jsonValueOf rest key := by
  unfold jsonValueOf
  dsimp only
  rw [strstr_clear h]

def label (key : List UInt8) : List UInt8 := 34 :: key ++ [34] ++ [58, 32]

lemma jsonValueOf_label (key : List UInt8) {b : UInt8} (hb : b ≠ 32 ∧ b ≠ 9) (rest : List UInt8) :
    jsonValueOf (label key ++ b :: rest) key = some (b :: rest) := by
  have hline : label key ++ b :: rest = (34 :: key ++ [34]) ++ (58 :: 32 :: b :: rest) := by simp [label]
  have hfound : strstr (label key ++ b :: rest) (34 :: key ++ [34]) = some (label key ++ b :: rest) := by
    rw [hline, strstr]
    generalize htext : (34 :: key ++ [34]) ++ (58 :: 32 :: b :: rest) = text
    have hpre : (34 :: key ++ [34]).isPrefixOf text = true := List.isPrefixOf_iff_prefix.mpr ⟨_, htext⟩
    cases text with
    | nil => rw [List.tails, List.find?_cons_of_pos hpre]
    | cons c text => rw [List.tails, List.find?_cons_of_pos hpre]
  have hcolon : strchr ((label key ++ b :: rest).drop (34 :: key ++ [34]).length) 58 =
      some (58 :: 32 :: b :: rest) := by
    rw [hline, List.drop_left]
    rfl
  have hblanks : ((58 :: 32 :: b :: rest).drop 1).dropWhile (fun b => b == 32 || b == 9) = b :: rest := by
    simp [hb]
  unfold jsonValueOf
  dsimp only
  rw [hfound, Option.bind_eq_bind, Option.bind_some, hcolon, Option.bind_some, hblanks]

lemma decimal_plain {n : Nat} {c : UInt8} (hc : c ∈ decimal n) : c ≠ 34 ∧ c ≠ 0 ∧ c ≠ 10 := by
  have hdigit := isDigit_decimal hc
  refine ⟨?_, ?_, ?_⟩
  all_goals
    rintro rfl
    exact absurd hdigit (by decide)

lemma ascii_comma : ascii ", ".toList = [44, 32] := by decide

lemma macText_plain {mac : List UInt8} {c : UInt8} (hc : c ∈ macText mac) : c ≠ 34 ∧ c ≠ 0 ∧ c ≠ 10 := by
  have hcomma : ∀ b ∈ ascii ", ".toList, b ≠ 34 ∧ b ≠ 0 ∧ b ≠ 10 := by
    rw [ascii_comma]
    exact List.forall_mem_cons.mpr ⟨by decide, List.forall_mem_singleton.mpr (by decide)⟩
  induction mac using macText.induct with
  | case1 => exact absurd hc List.not_mem_nil
  | case2 a => exact decimal_plain hc
  | case3 a mac hmac ih =>
    rw [macText.eq_3 a mac hmac, List.mem_append, List.mem_append] at hc
    rcases hc with (hc | hc) | hc
    · exact decimal_plain hc
    · exact hcomma c hc
    · exact ih hc

/-- **Six numbers**, or as many as are asked for. -/
lemma macLoop_macText (mac : List UInt8) {pre : List UInt8} (hpre : ∀ b ∈ pre, b = 32 ∨ b = 44)
    (rest : List UInt8) : macLoop mac.length (pre ++ (macText mac ++ 93 :: rest)) = some mac := by
  -- what comes after one number, which is the start of the next
  have hone : ∀ (a : UInt8) {pre after : List UInt8}, (∀ b ∈ pre, b = 32 ∨ b = 44) →
      (∀ b ∈ after.head?, isDigit b = false) → ∀ n,
        macLoop (n + 1) (pre ++ (decimal a.toNat ++ after)) = (macLoop n after).map fun mac => a :: mac := by
    intro a pre after hpre hafter n
    obtain ⟨b, s, hbs⟩ := List.exists_cons_of_ne_nil (decimal_ne_nil a.toNat)
    have hb : isDigit b = true := isDigit_decimal (hbs ▸ List.mem_cons_self)
    have hblank : (b == 32 || b == 44) = false := by
      rw [Bool.or_eq_false_iff, beq_eq_false_iff_ne, beq_eq_false_iff_ne]
      exact ⟨fun h => absurd hb (by rw [h]; decide), fun h => absurd hb (by rw [h]; decide)⟩
    have hdrop : (pre ++ (decimal a.toNat ++ after)).dropWhile (fun b => b == 32 || b == 44) =
        decimal a.toNat ++ after := by
      rw [List.dropWhile_append_of_pos fun c hc => by simpa using hpre c hc, hbs, List.cons_append,
        List.dropWhile_cons_of_neg (by simp [hblank])]
    have ha := a.toNat_lt
    have hrange : ¬ ((a.toNat : Int) < 0 ∨ 255 < (a.toNat : Int)) := by omega
    have hbyte : UInt8.ofNat ((a.toNat : Int)).toNat = a := by rw [Int.toNat_natCast, UInt8.ofNat_toNat]
    rw [macLoop, hdrop, strtol_decimal a.toNat hafter, Option.bind_eq_bind, Option.bind_some]
    dsimp only
    rw [if_neg hrange, hbyte]
    cases macLoop n after <;> rfl
  have hcomma : ∀ b ∈ ascii ", ".toList, b = 32 ∨ b = 44 := by
    rw [ascii_comma]
    exact List.forall_mem_cons.mpr ⟨by decide, List.forall_mem_singleton.mpr (by decide)⟩
  induction mac using macText.induct generalizing pre with
  | case1 => rfl
  | case2 a =>
    rw [macText, List.length_singleton, hone a hpre (by simp [isDigit])]
    rfl
  | case3 a mac hmac ih =>
    have hrest := ih hcomma
    rw [macText.eq_3 a mac hmac, List.append_assoc, List.append_assoc, List.length_cons,
      hone a hpre (by simp [ascii, isDigit]), hrest]
    rfl

/-- **Where everything stands** in a line. -/
lemma jsonHead_eq (frame rest : List UInt8) :
    jsonHead frame ++ rest =
      [123] ++ (label (ascii "frame_type".toList) ++
        (decimal ((frameByte frame 12).toNat * 256 + (frameByte frame 13).toNat) ++ ([44, 32] ++
          (label (ascii "src".toList) ++ 91 :: (macText ((frame.drop 6).take 6) ++ ([93, 44, 32] ++
            (label (ascii "dst".toList) ++ 91 :: (macText (frame.take 6) ++ ([93, 44, 32] ++
              (label (ascii "data".toList) ++ 34 :: rest)))))))))) := by
  have htype : ascii "\x7b\"frame_type\": ".toList = [123] ++ label (ascii "frame_type".toList) := by decide
  have hsrc : ascii ", \"src\": [".toList = [44, 32] ++ label (ascii "src".toList) ++ [91] := by decide
  have hdst : ascii "], \"dst\": [".toList = [93, 44, 32] ++ label (ascii "dst".toList) ++ [91] := by decide
  have hdata : ascii "], \"data\": \"".toList = [93, 44, 32] ++ label (ascii "data".toList) ++ [34] := by decide
  rw [jsonHead, htype, hsrc, hdst, hdata]
  simp only [List.append_assoc, List.cons_append, List.nil_append]

lemma jsonValueOf_jsonHead (frame rest : List UInt8) :
    (∃ after, jsonValueOf (jsonHead frame ++ rest) (ascii "frame_type".toList) =
        some (decimal ((frameByte frame 12).toNat * 256 + (frameByte frame 13).toNat) ++ 44 :: after)) ∧
      (∃ after, jsonValueOf (jsonHead frame ++ rest) (ascii "src".toList) =
        some (91 :: (macText ((frame.drop 6).take 6) ++ 93 :: after))) ∧
      (∃ after, jsonValueOf (jsonHead frame ++ rest) (ascii "dst".toList) =
        some (91 :: (macText (frame.take 6) ++ 93 :: after))) ∧
      jsonValueOf (jsonHead frame ++ rest) (ascii "data".toList) = some (34 :: rest) := by
  generalize htype : (frameByte frame 12).toNat * 256 + (frameByte frame 13).toNat = n
  have hnumber : ∀ key : List UInt8, clear (34 :: key ++ [34]) (decimal n) = true := fun key =>
    clear_of_notMem _ fun h => (decimal_plain h).1 rfl
  have hmac : ∀ (key mac : List UInt8), clear (34 :: key ++ [34]) (macText mac) = true := fun key mac =>
    clear_of_notMem _ fun h => (macText_plain h).1 rfl
  have hopen : ∀ key : List UInt8, clear (34 :: key ++ [34]) [91] = true := fun key =>
    clear_of_notMem _ (by decide)
  rw [jsonHead_eq, htype]
  refine ⟨?_, ?_, ?_, ?_⟩
  · obtain ⟨b, s, hbs⟩ := List.exists_cons_of_ne_nil (decimal_ne_nil n)
    have hb : isDigit b = true := isDigit_decimal (hbs ▸ List.mem_cons_self)
    obtain ⟨hspace, -⟩ := isSpace_of_isDigit hb
    have hplain : b ≠ 32 ∧ b ≠ 9 :=
      ⟨fun h => by rw [h] at hspace; exact absurd hspace (by decide),
        fun h => by rw [h] at hspace; exact absurd hspace (by decide)⟩
    rw [jsonValueOf_skip (by decide), hbs, List.cons_append, jsonValueOf_label _ hplain]
    exact ⟨_, rfl⟩
  · rw [jsonValueOf_skip (by decide), jsonValueOf_skip (by decide), jsonValueOf_skip (hnumber _),
      jsonValueOf_skip (by decide), jsonValueOf_label _ (by decide)]
    exact ⟨_, rfl⟩
  · rw [jsonValueOf_skip (by decide), jsonValueOf_skip (by decide), jsonValueOf_skip (hnumber _),
      jsonValueOf_skip (by decide), jsonValueOf_skip (by decide), ← List.singleton_append, jsonValueOf_skip (hopen _),
      jsonValueOf_skip (hmac _ _), jsonValueOf_skip (by decide), jsonValueOf_label _ (by decide)]
    exact ⟨_, rfl⟩
  · rw [jsonValueOf_skip (by decide), jsonValueOf_skip (by decide), jsonValueOf_skip (hnumber _),
      jsonValueOf_skip (by decide), jsonValueOf_skip (by decide), ← List.singleton_append, jsonValueOf_skip (hopen _),
      jsonValueOf_skip (hmac _ _), jsonValueOf_skip (by decide), jsonValueOf_skip (by decide),
      ← List.singleton_append, jsonValueOf_skip (hopen _), jsonValueOf_skip (hmac _ _), jsonValueOf_skip (by decide),
      jsonValueOf_label _ (by decide)]

/-! ## The buffer -/

/-- What `net_json_decode` finds in a line before it writes: the header, and the text of the payload. -/
def netJsonFields (line : List UInt8) : Option (List UInt8 × List UInt8) := do
  let dst ← jsonMacOf line (ascii "dst".toList)
  let src ← jsonMacOf line (ascii "src".toList)
  let p ← jsonValueOf line (ascii "frame_type".toList)
  let (frameType, _) ← strtol p
  if frameType < 0 ∨ 0xffff < frameType then none
  else
    match ← jsonValueOf line (ascii "data".toList) with
    | 34 :: p => do
      let rest ← strchr p 34
      some (dst ++ src ++ [UInt8.ofNat (frameType.toNat / 256), UInt8.ofNat frameType.toNat],
        p.take (p.length - rest.length))
    | _ => none

/-- `memcpy` to the start of the buffer. -/
def putFirst (bytes : List UInt8) (out : Nat → UInt8) : Nat → UInt8 := fun i => bytes.getD i (out i)

/-- The loop of `base64_decode`, to the buffer from `base` on: how many bytes. -/
def base64LoopInto (outSize base : Nat) :
    List UInt8 → UInt32 → UInt32 → Nat → (Nat → UInt8) → Option Nat × (Nat → UInt8)
  | [], _, _, o, out => (some o, out)
  | c :: cs, acc, bits, o, out =>
    if c = 61 then (some o, out)
    else
      match base64Value c with
      | none => (none, out)
      | some v =>
        let acc := (acc <<< 6) ||| v
        let bits := bits + 6
        if 8 ≤ bits then
          let bits := bits - 8
          if outSize ≤ o then (none, out)
          else
            base64LoopInto outSize base cs acc bits (o + 1)
              (Function.update out (base + o) ((acc >>> bits) &&& 0xff).toUInt8)
        else base64LoopInto outSize base cs acc bits o out

/-- `net_json_decode`: the length it returns, and the buffer. -/
def netJsonDecodeInto (line : List UInt8) (outSize : Nat) (out : Nat → UInt8) : Option Nat × (Nat → UInt8) :=
  if outSize < netJsonHeaderLen then (none, out)
  else
    match netJsonFields line with
    | none => (none, out)
    | some (header, text) =>
      let (payload, out) :=
        base64LoopInto (outSize - netJsonHeaderLen) netJsonHeaderLen text 0 0 0 (putFirst header out)
      (payload.map fun n => netJsonHeaderLen + n, out)

/-- The buffer starts with the bytes. -/
def StartsWith (out : Nat → UInt8) (bytes : List UInt8) : Prop := ∀ i (hi : i < bytes.length), out i = bytes[i]

lemma startsWith_putFirst (bytes : List UInt8) (out : Nat → UInt8) : StartsWith (putFirst bytes out) bytes := by
  intro i hi
  rw [putFirst, List.getD_eq_getElem?_getD, List.getElem?_eq_getElem hi, Option.getD_some]

lemma putFirst_past {bytes : List UInt8} {i : Nat} (hi : bytes.length ≤ i) (out : Nat → UInt8) :
    putFirst bytes out i = out i := by
  rw [putFirst, List.getD_eq_getElem?_getD, List.getElem?_eq_none hi, Option.getD_none]

lemma StartsWith.push {out : Nat → UInt8} {bytes : List UInt8} (h : StartsWith out bytes) (b : UInt8) :
    StartsWith (Function.update out bytes.length b) (bytes ++ [b]) := by
  intro i hi
  rw [List.length_append, List.length_singleton] at hi
  rcases Nat.lt_succ_iff_lt_or_eq.mp hi with hlt | rfl
  · rw [Function.update_of_ne (by omega), List.getElem_append_left hlt, h i hlt]
  · rw [Function.update_self, List.getElem_concat_length rfl]

/-- **The loop on memory** is the loop: it gives the same bytes, at the place they are for, and nothing that is past
the room is touched. -/
lemma base64LoopInto_eq (header : List UInt8) (outSize : Nat) (cs : List UInt8) (acc bits : UInt32)
    {written : List UInt8} {out : Nat → UInt8} (hout : StartsWith out (header ++ written))
    (hroom : written.length ≤ outSize) :
    (∀ i ≥ header.length + outSize,
        (base64LoopInto outSize header.length cs acc bits written.length out).2 i = out i) ∧
      match base64Loop outSize cs acc bits written with
      | none => (base64LoopInto outSize header.length cs acc bits written.length out).1 = none
      | some bytes => bytes.length ≤ outSize ∧
        (base64LoopInto outSize header.length cs acc bits written.length out).1 = some bytes.length ∧
        StartsWith (base64LoopInto outSize header.length cs acc bits written.length out).2 (header ++ bytes) := by
  induction cs generalizing acc bits written out with
  | nil => exact ⟨fun i hi => rfl, hroom, rfl, hout⟩
  | cons c cs ih =>
    rw [base64Loop, base64LoopInto]
    by_cases hend : c = 61
    · simp only [if_pos hend]
      exact ⟨fun i hi => trivial, hroom, trivial, hout⟩
    · simp only [if_neg hend]
      cases hv : base64Value c with
      | none => exact ⟨fun i hi => rfl, rfl⟩
      | some v =>
        dsimp only
        by_cases hfull : 8 ≤ bits + 6
        · by_cases hfits : outSize ≤ written.length
          · simp only [if_pos hfull, if_pos hfits]
            exact ⟨fun i hi => trivial, trivial⟩
          · simp only [if_pos hfull, if_neg hfits]
            generalize (((acc <<< 6 ||| v) >>> (bits + 6 - 8)) &&& 0xff).toUInt8 = b
            have hnext : StartsWith (Function.update out (header.length + written.length) b)
                (header ++ (written ++ [b])) := by
              rw [← List.append_assoc, ← List.length_append]
              exact hout.push b
            have hlen : (written ++ [b]).length = written.length + 1 := List.length_append
            obtain ⟨hpast, hbytes⟩ := ih (acc <<< 6 ||| v) (bits + 6 - 8) hnext (by omega)
            rw [hlen] at hpast hbytes
            refine ⟨fun i hi => ?_, hbytes⟩
            rw [hpast i hi, Function.update_of_ne (by omega)]
        · simp only [if_neg hfull]
          exact ih _ _ hout hroom

lemma length_macLoop {n : Nat} {p mac : List UInt8} (h : macLoop n p = some mac) : mac.length = n := by
  induction n generalizing p mac with
  | zero =>
    rw [macLoop, Option.some_inj] at h
    rw [← h, List.length_nil]
  | succ n ih =>
    rw [macLoop, Option.bind_eq_bind, Option.bind_eq_some_iff] at h
    obtain ⟨⟨v, rest⟩, -, h⟩ := h
    dsimp only at h
    split at h
    · cases h
    · rw [Option.bind_eq_bind, Option.bind_eq_some_iff] at h
      obtain ⟨mac', hmac, h⟩ := h
      rw [← Option.some_inj.mp h, List.length_cons, ih hmac]

lemma length_jsonMacOf {line key mac : List UInt8} (h : jsonMacOf line key = some mac) : mac.length = 6 := by
  rw [jsonMacOf, Option.bind_eq_bind, Option.bind_eq_some_iff] at h
  obtain ⟨p, -, h⟩ := h
  split at h
  · exact length_macLoop h
  · cases h

lemma length_netJsonFields {line header text : List UInt8} (h : netJsonFields line = some (header, text)) :
    header.length = netJsonHeaderLen := by
  simp only [netJsonFields, Option.bind_eq_bind, Option.bind_eq_some_iff] at h
  obtain ⟨dst, hdst, src, hsrc, p, -, ⟨n, rest⟩, -, h⟩ := h
  dsimp only at h
  by_cases hrange : n < 0 ∨ 0xffff < n
  · rw [if_pos hrange] at h
    cases h
  · rw [if_neg hrange, Option.bind_eq_some_iff] at h
    obtain ⟨q, -, h⟩ := h
    split at h
    · rw [Option.bind_eq_some_iff] at h
      obtain ⟨tail, -, h⟩ := h
      rw [Option.some_inj, Prod.mk_inj] at h
      rw [← h.1]
      simp [length_jsonMacOf hdst, length_jsonMacOf hsrc, netJsonHeaderLen]
    · cases h

lemma netJsonDecode_eq (line : List UInt8) (outSize : Nat) :
    netJsonDecode line outSize = if outSize < netJsonHeaderLen then none else
      (netJsonFields line).bind fun found =>
        (base64Decode found.2 (outSize - netJsonHeaderLen)).map fun payload => found.1 ++ payload := by
  have hdst : ascii "dst".toList = ascii ['d', 's', 't'] := rfl
  have hsrc : ascii "src".toList = ascii ['s', 'r', 'c'] := rfl
  have htype : ascii "frame_type".toList = ascii ['f', 'r', 'a', 'm', 'e', '_', 't', 'y', 'p', 'e'] := rfl
  have hdata : ascii "data".toList = ascii ['d', 'a', 't', 'a'] := rfl
  rw [netJsonDecode, netJsonFields, hdst, hsrc, htype, hdata]
  by_cases hsize : outSize < netJsonHeaderLen
  · rw [if_pos hsize, if_pos hsize]
  rw [if_neg hsize, if_neg hsize]
  cases jsonMacOf line (ascii ['d', 's', 't']) with
  | none => rfl
  | some dst =>
    cases jsonMacOf line (ascii ['s', 'r', 'c']) with
    | none => rfl
    | some src =>
      cases jsonValueOf line (ascii ['f', 'r', 'a', 'm', 'e', '_', 't', 'y', 'p', 'e']) with
      | none => rfl
      | some p =>
        cases hn : strtol p with
        | none => simp [hn]
        | some number =>
          obtain ⟨n, rest⟩ := number
          simp only [Option.bind_eq_bind, Option.bind_some, hn]
          split
          · rfl
          · cases jsonValueOf line (ascii ['d', 'a', 't', 'a']) with
            | none => rfl
            | some q =>
              simp only [Option.bind_some]
              cases q with
              | nil => rfl
              | cons c q' =>
                by_cases hopen : c = 34
                · subst hopen
                  cases hclose : strchr q' 34 with
                  | none => simp [hclose]
                  | some tail =>
                    simp only [hclose, Option.bind_some]
                    cases base64Decode (List.take (q'.length - tail.length) q') (outSize - netJsonHeaderLen) <;> rfl
                · simp [hopen]

/-- **The decoder on memory** is the decoder, and stays in the room it has. -/
theorem netJsonDecodeInto_eq (line : List UInt8) (outSize : Nat) (out : Nat → UInt8) :
    (∀ i ≥ outSize, (netJsonDecodeInto line outSize out).2 i = out i) ∧
      match netJsonDecode line outSize with
      | none => (netJsonDecodeInto line outSize out).1 = none
      | some frame => frame.length ≤ outSize ∧ (netJsonDecodeInto line outSize out).1 = some frame.length ∧
        StartsWith (netJsonDecodeInto line outSize out).2 frame := by
  rw [netJsonDecode_eq, netJsonDecodeInto]
  by_cases hsize : outSize < netJsonHeaderLen
  · simp only [if_pos hsize]
    exact ⟨fun i hi => trivial, trivial⟩
  simp only [if_neg hsize]
  cases hfound : netJsonFields line with
  | none => exact ⟨fun i hi => rfl, rfl⟩
  | some found =>
    obtain ⟨header, text⟩ := found
    have hlen := length_netJsonFields hfound
    have hstart : StartsWith (putFirst header out) (header ++ []) := by
      rw [List.append_nil]
      exact startsWith_putFirst header out
    obtain ⟨hpast, hbytes⟩ := base64LoopInto_eq header (outSize - netJsonHeaderLen) text 0 0 hstart
      (Nat.zero_le _)
    rw [List.length_nil, hlen] at hpast hbytes
    refine ⟨fun i hi => ?_, ?_⟩
    · exact (hpast i (by omega)).trans (putFirst_past (by omega) out)
    · rw [Option.bind_some, base64Decode]
      cases hloop : base64Loop (outSize - netJsonHeaderLen) text 0 0 [] with
      | none =>
        rw [hloop] at hbytes
        simp only [Option.map_none]
        exact congrArg (Option.map _) hbytes
      | some payload =>
        rw [hloop] at hbytes
        obtain ⟨hfits, hcount, hout⟩ := hbytes
        simp only [Option.map_some]
        refine ⟨by rw [List.length_append]; omega, ?_, hout⟩
        rw [hcount, List.length_append, hlen]
        rfl

/-! ## There and back -/

lemma length_decimal {n k : Nat} (hk : 0 < k) (h : n < 10 ^ k) : (decimal n).length ≤ k := by
  unfold decimal
  split
  · exact hk
  · rw [List.length_map, List.length_reverse]
    exact (Nat.digits_length_le_iff (by decide) n).mpr h

lemma length_macText (mac : List UInt8) : (macText mac).length ≤ 5 * mac.length := by
  have hone : ∀ a : UInt8, (decimal a.toNat).length ≤ 3 := fun a =>
    length_decimal (by decide) (lt_trans a.toNat_lt (by decide))
  induction mac using macText.induct with
  | case1 => exact Nat.zero_le _
  | case2 a => exact le_trans (hone a) (Nat.le_add_left 3 2)
  | case3 a mac hmac ih =>
    have ha := hone a
    have hcomma : (ascii ", ".toList).length = 2 := rfl
    rw [macText.eq_3 a mac hmac, List.length_append, List.length_append, hcomma, List.length_cons]
    omega

lemma length_base64Encode (payload : List UInt8) : (base64Encode payload).length = (payload.length + 2) / 3 * 4 := by
  induction payload using base64Encode.induct with
  | case1 a b c rest ih =>
    simp only [base64Encode, List.length_cons, ih]
    omega
  | case2 a b => simp [base64Encode]
  | case3 a => simp [base64Encode]
  | case4 => rfl

lemma frameType_lt (frame : List UInt8) :
    (frameByte frame 12).toNat * 256 + (frameByte frame 13).toNat < 65536 := by
  have h12 := (frameByte frame 12).toNat_lt
  have h13 := (frameByte frame 13).toNat_lt
  omega

lemma length_jsonHead (frame : List UInt8) : (jsonHead frame).length < 128 := by
  have htype : (decimal ((frameByte frame 12).toNat * 256 + (frameByte frame 13).toNat)).length ≤ 5 :=
    length_decimal (by decide) (lt_trans (frameType_lt frame) (by decide))
  have hsrc := length_macText ((frame.drop 6).take 6)
  have hdst := length_macText (frame.take 6)
  have hsrc6 : ((frame.drop 6).take 6).length ≤ 6 := List.length_take_le _ _
  have hdst6 : (frame.take 6).length ≤ 6 := List.length_take_le _ _
  have h1 : (ascii "\x7b\"frame_type\": ".toList).length = 15 := by decide
  have h2 : (ascii ", \"src\": [".toList).length = 10 := by decide
  have h3 : (ascii "], \"dst\": [".toList).length = 11 := by decide
  have h4 : (ascii "], \"data\": \"".toList).length = 12 := by decide
  simp only [jsonHead, List.length_append, h1, h2, h3, h4]
  omega

/-- **A frame of any length it may have has a line**, where there is the room that is asked for. -/
lemma netJsonEncode_of_room {frame : List UInt8} {outSize : Nat} (hmin : netJsonHeaderLen ≤ frame.length)
    (hmax : frame.length ≤ netJsonMaxFrame)
    (hroom : 160 + (frame.length - netJsonHeaderLen + 2) / 3 * 4 + 2 ≤ outSize) :
    netJsonEncode frame outSize =
      some (jsonHead frame ++ base64Encode (frame.drop netJsonHeaderLen) ++ ascii "\"\x7d\n".toList) := by
  have hhead := length_jsonHead frame
  have htext := length_base64Encode (frame.drop netJsonHeaderLen)
  rw [List.length_drop] at htext
  rw [netJsonEncode, if_neg (by omega)]
  simp only [List.length_drop, List.length_append, htext]
  rw [if_neg (by omega), if_neg (by omega), if_neg (by omega)]

lemma netJsonEncode_eq_some {frame line : List UInt8} {outSize : Nat} (h : netJsonEncode frame outSize = some line) :
    line = jsonHead frame ++ base64Encode (frame.drop netJsonHeaderLen) ++ ascii "\"\x7d\n".toList := by
  unfold netJsonEncode at h
  dsimp only at h
  by_cases hlen : frame.length < netJsonHeaderLen ∨ netJsonMaxFrame < frame.length
  · rw [if_pos hlen] at h
    cases h
  rw [if_neg hlen] at h
  by_cases hroom : outSize < 160 + ((frame.drop netJsonHeaderLen).length + 2) / 3 * 4 + 2
  · rw [if_pos hroom] at h
    cases h
  rw [if_neg hroom] at h
  by_cases hhead : outSize ≤ (jsonHead frame).length
  · rw [if_pos hhead] at h
    cases h
  rw [if_neg hhead] at h
  by_cases htail : outSize ≤ (jsonHead frame ++ base64Encode (frame.drop netJsonHeaderLen)).length + 3
  · rw [if_pos htail] at h
    cases h
  rw [if_neg htail, Option.some_inj] at h
  exact h.symm

lemma take_header {frame : List UInt8} (h : netJsonHeaderLen ≤ frame.length) :
    frame.take 6 ++ (frame.drop 6).take 6 ++ [frameByte frame 12, frameByte frame 13] =
      frame.take netJsonHeaderLen := by
  have h12 : 12 < frame.length := lt_of_lt_of_le (by decide) h
  have h13 : 13 < frame.length := lt_of_lt_of_le (by decide) h
  have hfirst : frame.take 6 ++ (frame.drop 6).take 6 = frame.take 12 := List.take_add.symm
  have hlast : frame.take netJsonHeaderLen = frame.take 12 ++ [frame[12]] ++ [frame[13]] := by
    rw [List.take_concat_get' frame 12 h12, List.take_concat_get' frame 13 h13]
    rfl
  rw [hfirst, hlast, frameByte, frameByte, List.getD_eq_getElem?_getD, List.getD_eq_getElem?_getD,
    List.getElem?_eq_getElem h12, List.getElem?_eq_getElem h13, Option.getD_some, Option.getD_some, List.append_assoc,
    List.singleton_append]

/-- **The fields of a line** are those of the frame, whatever comes after the payload's closing quote. -/
lemma netJsonFields_line {frame : List UInt8} (h : netJsonHeaderLen ≤ frame.length) (payload tail : List UInt8) :
    netJsonFields (jsonHead frame ++ (base64Encode payload ++ 34 :: tail)) =
      some (frame.take netJsonHeaderLen, base64Encode payload) := by
  obtain ⟨⟨restType, htype⟩, ⟨restSrc, hsrc⟩, ⟨restDst, hdst⟩, hdata⟩ :=
    jsonValueOf_jsonHead frame (base64Encode payload ++ 34 :: tail)
  have hlen : 14 ≤ frame.length := h
  have hmac : ∀ {key mac rest : List UInt8}, mac.length = 6 →
      jsonValueOf (jsonHead frame ++ (base64Encode payload ++ 34 :: tail)) key =
          some (91 :: (macText mac ++ 93 :: rest)) →
        jsonMacOf (jsonHead frame ++ (base64Encode payload ++ 34 :: tail)) key = some mac := by
    intro key mac rest hsix hkey
    have hloop := macLoop_macText mac (List.forall_mem_nil _) rest
    rw [hsix] at hloop
    rw [jsonMacOf, hkey]
    exact hloop
  have hd := hmac (by rw [List.length_take]; omega) hdst
  have hs := hmac (by rw [List.length_take, List.length_drop]; omega) hsrc
  have hlt := frameType_lt frame
  have hcomma : ∀ b ∈ (44 :: restType).head?, isDigit b = false := by simp [isDigit]
  have hnumber := strtol_decimal ((frameByte frame 12).toNat * 256 + (frameByte frame 13).toNat) hcomma
  have h12 := (frameByte frame 12).toNat_lt
  have h13 := (frameByte frame 13).toNat_lt
  have hclose : strchr (base64Encode payload ++ 34 :: tail) 34 = some (34 :: tail) := by
    unfold strchr
    rw [List.dropWhile_append_of_pos, List.dropWhile_cons_of_neg (by simp)]
    intro c hc
    simp only [decide_eq_true_eq]
    exact (base64Encode_plain hc).1
  have hhigh : UInt8.ofNat (((frameByte frame 12).toNat * 256 + (frameByte frame 13).toNat) / 256) =
      frameByte frame 12 := by
    rw [← UInt8.toNat_inj, UInt8.toNat_ofNat']
    omega
  have hlow : UInt8.ofNat ((frameByte frame 12).toNat * 256 + (frameByte frame 13).toNat) = frameByte frame 13 := by
    rw [← UInt8.toNat_inj, UInt8.toNat_ofNat']
    omega
  unfold netJsonFields
  rw [hd, hs, htype, hdata]
  simp only [Option.bind_eq_bind, Option.bind_some, hnumber]
  rw [if_neg (by omega), hclose, Option.bind_some, Int.toNat_natCast, hhigh, hlow, take_header h]
  simp

lemma notMem_line {b : UInt8} (hb : b = 0 ∨ b = 10) (frame payload : List UInt8) {tail : List UInt8} (htail : b ∉ tail) :
    b ∉ jsonHead frame ++ (base64Encode payload ++ tail) := by
  have hplain : ¬(b ≠ 34 ∧ b ≠ 0 ∧ b ≠ 10) := fun h => hb.elim h.2.1 h.2.2
  have h1 : b ∉ ascii "\x7b\"frame_type\": ".toList := by rcases hb with rfl | rfl <;> decide
  have h2 : b ∉ ascii ", \"src\": [".toList := by rcases hb with rfl | rfl <;> decide
  have h3 : b ∉ ascii "], \"dst\": [".toList := by rcases hb with rfl | rfl <;> decide
  have h4 : b ∉ ascii "], \"data\": \"".toList := by rcases hb with rfl | rfl <;> decide
  simp only [jsonHead, List.mem_append, not_or]
  exact ⟨⟨⟨⟨⟨⟨⟨h1, fun h => hplain (decimal_plain h)⟩, h2⟩, fun h => hplain (macText_plain h)⟩, h3⟩,
    fun h => hplain (macText_plain h)⟩, h4⟩, fun h => hplain (base64Encode_plain h), htail⟩

lemma cString_append {s : List UInt8} (h : 0 ∉ s) (junk : List UInt8) : cString (s ++ 0 :: junk) = s := by
  rw [cString, List.takeWhile_append_of_pos, List.takeWhile_cons_of_neg (by simp), List.append_nil]
  intro c hc
  simp only [decide_eq_true_eq]
  rintro rfl
  exact h hc

/-- **A frame comes back** from the string of its line, whatever ends the string and whatever is behind it. -/
lemma netJsonDecode_line {frame : List UInt8} {outSize : Nat} (hmin : netJsonHeaderLen ≤ frame.length)
    (hroom : frame.length ≤ outSize) {tail : List UInt8} (htail : 0 ∉ tail) (junk : List UInt8) :
    netJsonDecode
      (cString (jsonHead frame ++ (base64Encode (frame.drop netJsonHeaderLen) ++ 34 :: tail) ++ 0 :: junk)) outSize =
        some frame := by
  have hpayload : base64Decode (base64Encode (frame.drop netJsonHeaderLen)) (outSize - netJsonHeaderLen) =
      some (frame.drop netJsonHeaderLen) :=
    base64Loop_encode _ 0 [] (by simp; omega)
  rw [cString_append (notMem_line (.inl rfl) frame _ (by simpa using htail)), netJsonDecode_eq, if_neg (by omega),
    netJsonFields_line hmin, Option.bind_some, hpayload, Option.map_some, List.take_append_drop]

/-- **JSON frames.**  A frame of any length that a frame may have has a line, in the room that is asked for.  The line
of a frame is taken back to that frame's length and its bytes, with the newline that ends it or without it; and no
line, whatever it is, makes the decoder give more than the room it has or touch what is past it. -/
theorem json_frames (frame : List UInt8) (hmin : netJsonHeaderLen ≤ frame.length)
    (hmax : frame.length ≤ netJsonMaxFrame) :
    (∀ encSize, 160 + (frame.length - netJsonHeaderLen + 2) / 3 * 4 + 2 ≤ encSize →
        ∃ line, netJsonEncode frame encSize = some line) ∧
      (∀ encSize line, netJsonEncode frame encSize = some line →
        ∀ string ∈ [line, line.dropLast], ∀ (junk : List UInt8) (outSize : Nat) (out : Nat → UInt8),
          frame.length ≤ outSize →
            (netJsonDecodeInto (cString (string ++ 0 :: junk)) outSize out).1 = some frame.length ∧
              StartsWith (netJsonDecodeInto (cString (string ++ 0 :: junk)) outSize out).2 frame) ∧
      ∀ (line : List UInt8) (outSize : Nat) (out : Nat → UInt8),
        (∀ n, (netJsonDecodeInto line outSize out).1 = some n → n ≤ outSize) ∧
          ∀ i ≥ outSize, (netJsonDecodeInto line outSize out).2 i = out i := by
  refine ⟨fun encSize hroom => ⟨_, netJsonEncode_of_room hmin hmax hroom⟩, ?_, ?_⟩
  · intro encSize line hline string hstring junk outSize out hroom
    have htail : ∃ tail, 0 ∉ tail ∧
        string = jsonHead frame ++ (base64Encode (frame.drop netJsonHeaderLen) ++ 34 :: tail) := by
      have heq := netJsonEncode_eq_some hline
      rcases List.mem_cons.mp hstring with rfl | hstring
      · exact ⟨[125, 10], by decide, heq.trans (List.append_assoc _ _ _)⟩
      · rw [List.mem_singleton.mp hstring, heq, List.append_assoc]
        refine ⟨[125], by decide, ?_⟩
        have hend : ascii "\"\x7d\n".toList = [34, 125] ++ [10] := rfl
        rw [hend, ← List.append_assoc, ← List.append_assoc, List.dropLast_concat, List.append_assoc]
    obtain ⟨tail, hnul, rfl⟩ := htail
    obtain ⟨-, hinto⟩ := netJsonDecodeInto_eq
      (cString (jsonHead frame ++ (base64Encode (frame.drop netJsonHeaderLen) ++ 34 :: tail) ++ 0 :: junk))
      outSize out
    rw [netJsonDecode_line hmin hroom hnul junk] at hinto
    exact hinto.2
  · intro line outSize out
    obtain ⟨hpast, hinto⟩ := netJsonDecodeInto_eq line outSize out
    refine ⟨fun n hn => ?_, hpast⟩
    cases hdecode : netJsonDecode line outSize with
    | none =>
      rw [hdecode, hn] at hinto
      cases hinto
    | some bytes =>
      rw [hdecode, hn] at hinto
      obtain ⟨hfits, hcount, -⟩ := hinto
      rw [Option.some_inj.mp hcount]
      exact hfits

/-- A broadcast with a payload of five bytes. -/
def broadcast : List UInt8 :=
  [0xff, 0xff, 0xff, 0xff, 0xff, 0xff, 0x06, 0x52, 0x50, 0x43, 0x45, 0x01, 0x08, 0x06, 0x00, 0x01, 0xfb, 0x22, 0x80]

theorem json_frames_broadcast :
    ∃ line, netJsonEncode broadcast 200 = some line ∧
      ∀ string ∈ [line, line.dropLast],
        (netJsonDecodeInto (cString (string ++ [0])) 1522 fun _ => 0).1 = some 19 ∧
          StartsWith (netJsonDecodeInto (cString (string ++ [0])) 1522 fun _ => 0).2 broadcast := by
  have hframes := json_frames broadcast (by decide) (by decide)
  obtain ⟨line, hline⟩ := hframes.1 200 (by decide)
  exact ⟨line, hline, fun string hstring => hframes.2.1 200 line hline string hstring [] 1522 _ (by decide)⟩

end RpcEmu.Net
