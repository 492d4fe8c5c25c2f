import RpcEmu.Debug.Parser

/-!
# What the parser reads off a token

Each of the token readers on a text that begins with its token, and on one that does not.  What may
come before a token is spaces; what may come after it is what the operators can tell apart.
-/

namespace RpcEmu.DebugExpr

open Chains

def UnOp.text : UnOp → Text
  | not => ['!']
  | compl => ['~']
  | neg => ['-']

def BinOp.text : BinOp → Text
  | mul => ['*']
  | div => ['/']
  | mod => ['%']
  | add => ['+']
  | sub => ['-']
  | shl => ['<', '<']
  | shr => ['>', '>']
  | le => ['<', '=']
  | ge => ['>', '=']
  | lt => ['<']
  | gt => ['>']
  | eq => ['=', '=']
  | ne => ['!', '=']
  | bitAnd => ['&']
  | bitXor => ['^']
  | bitOr => ['|']
  | and => ['&', '&']
  | or => ['|', '|']

def BinOp.level : BinOp → Nat
  | mul | div | mod => 1
  | add | sub => 2
  | shl | shr => 3
  | le | ge | lt | gt => 4
  | eq | ne => 5
  | bitAnd => 6
  | bitXor => 7
  | bitOr => 8
  | and => 9
  | or => 10

def BinOp.longerBy : BinOp → List Char
  | bitAnd => ['&']
  | bitOr => ['|']
  | lt => ['<', '=']
  | gt => ['>', '=']
  | _ => []

/-- The next character would make a longer operator. -/
def BinOp.Longer (o : BinOp) (r : Text) : Prop := ∃ c ∈ o.longerBy, r.head? = some c

/-- What may stand after an operand of the level: the end, a closing bracket, or an operator that binds less. -/
def Follows (level : Nat) (rest : Text) : Prop :=
  (skipSpace rest = [] ∨ (∃ r, skipSpace rest = ')' :: r) ∨ ∃ r, skipSpace rest = ']' :: r) ∨
    ∃ o : BinOp, ∃ r, level < o.level ∧ skipSpace rest = o.text ++ r ∧ ¬ o.Longer r

/-! ## Spaces -/

lemma skipSpace_of_space {c : Char} {s : Text} (h : isSpace c = true) :
    skipSpace (c :: s) = skipSpace s := by
  simp [skipSpace, h]

lemma skipSpace_of_not_space {c : Char} {s : Text} (h : isSpace c = false) :
    skipSpace (c :: s) = c :: s := by
  simp [skipSpace, h]

lemma skipSpace_append {sp s : Text} (h : ∀ c ∈ sp, isSpace c = true) :
    skipSpace (sp ++ s) = skipSpace s := by
  induction sp with
  | nil => rfl
  | cons c sp ih =>
    rw [List.cons_append, skipSpace_of_space (h c (by simp))]
    exact ih fun c hc => h c (by simp [hc])

@[simp] lemma skipSpace_skipSpace (s : Text) : skipSpace (skipSpace s) = skipSpace s := by
  induction s with
  | nil => rfl
  | cons c s ih =>
    cases h : isSpace c with
    | true => rw [skipSpace_of_space h, ih]
    | false => rw [skipSpace_of_not_space h, skipSpace_of_not_space h]

lemma skipSpace_length (s : Text) : (skipSpace s).length ≤ s.length :=
  (List.dropWhile_sublist _).length_le

/-! ## Operators -/

def Token.rest {ω : Type} (t : Token ω) (p : Text) : Option Text :=
  if t.text.isPrefixOf p &&
      !((p.drop t.text.length).head?.any fun c => (t.notFollowedBy.getD []).contains c) then
    some (p.drop t.text.length)
  else none

def firstRest {ω : Type} : List (Token ω) → Text → Option (ω × Text)
  | [], _ => none
  | t :: ops, p =>
    match t.rest p with
    | some r => some (t.op, r)
    | none => firstRest ops p

section Tables

variable {ω : Type}

lemma Token.take_of_some {t : Token ω} {s r : Text} (h : t.rest (skipSpace s) = some r) :
    t.take s = (true, r) := by
  rw [Token.rest] at h
  split_ifs at h with hc
  rw [Bool.and_eq_true] at hc
  cases Option.some.inj h
  cases hn : t.notFollowedBy with
  | none => simp only [Token.take, hn, accept, if_pos hc.1]
  | some no =>
    have hf := hc.2
    rw [hn, Option.getD_some, Bool.not_eq_true'] at hf
    simp only [Token.take, hn, acceptExact, if_pos hc.1, hf, Bool.false_eq_true, if_false]

lemma Token.take_of_none {t : Token ω} {s : Text} (h : t.rest (skipSpace s) = none) :
    ∃ s', t.take s = (false, s') ∧ skipSpace s' = skipSpace s := by
  rw [Token.rest] at h
  split_ifs at h with hc
  cases hn : t.notFollowedBy with
  | none =>
    refine ⟨skipSpace s, ?_, skipSpace_skipSpace s⟩
    have hp : ¬ t.text.isPrefixOf (skipSpace s) = true := by
      intro hp
      refine hc ?_
      rw [hp, hn]
      cases ((skipSpace s).drop t.text.length).head? <;> rfl
    simp only [Token.take, hn, accept, if_neg hp]
  | some no =>
    refine ⟨s, ?_, rfl⟩
    rw [hn, Option.getD_some, Bool.and_eq_true, Bool.not_eq_true'] at hc
    simp only [Token.take, hn, acceptExact]
    split_ifs with hp hf
    · rfl
    · exact absurd ⟨hp, by simpa using hf⟩ hc
    · rfl

lemma firstOf_of_some {ops : List (Token ω)} {s r : Text} {o : ω}
    (h : firstRest ops (skipSpace s) = some (o, r)) : firstOf ops s = (some o, r) := by
  induction ops generalizing s with
  | nil => cases h
  | cons t ops ih =>
    rw [firstRest] at h
    rw [firstOf]
    cases ht : t.rest (skipSpace s) with
    | some r' =>
      rw [ht] at h
      cases h
      rw [Token.take_of_some ht]
    | none =>
      rw [ht] at h
      obtain ⟨s', htake, hs⟩ := Token.take_of_none ht
      rw [htake]
      exact ih (by rw [hs]; exact h)

lemma firstOf_of_none {ops : List (Token ω)} {s : Text} (h : firstRest ops (skipSpace s) = none) :
    ∃ s', firstOf ops s = (none, s') ∧ skipSpace s' = skipSpace s := by
  induction ops generalizing s with
  | nil => exact ⟨s, rfl, rfl⟩
  | cons t ops ih =>
    rw [firstRest] at h
    cases ht : t.rest (skipSpace s) with
    | some r' => simp [ht] at h
    | none =>
      rw [ht] at h
      obtain ⟨s', htake, hs⟩ := Token.take_of_none ht
      obtain ⟨s'', hf, hs'⟩ := ih (s := s') (by rw [hs]; exact h)
      exact ⟨s'', by rw [firstOf, htake]; exact hf, hs'.trans hs⟩

end Tables

lemma BinOp.not_longer_cons {o : BinOp} {c : Char} {r : Text} (h : ¬ o.Longer (c :: r)) :
    ∀ d ∈ o.longerBy, d ≠ c := by
  rintro d hd rfl
  exact h ⟨d, hd, rfl⟩

/-- **An operator is found by its own level.** -/
lemma firstRest_own {o : BinOp} {r : Text} (hl : ¬ o.Longer r) :
    firstRest (levelOps o.level) (o.text ++ r) = some (o, r) := by
  cases r with
  | nil => cases o <;> rfl
  | cons c r =>
    have hne := BinOp.not_longer_cons hl
    cases o with
    | bitAnd =>
      have h1 := hne '&' (by simp [BinOp.longerBy])
      simp [levelOps, BinOp.level, firstRest, Token.rest, BinOp.text, List.isPrefixOf, h1.symm]
    | bitOr =>
      have h1 := hne '|' (by simp [BinOp.longerBy])
      simp [levelOps, BinOp.level, firstRest, Token.rest, BinOp.text, List.isPrefixOf, h1.symm]
    | lt =>
      have h1 := hne '<' (by simp [BinOp.longerBy])
      have h2 := hne '=' (by simp [BinOp.longerBy])
      simp [levelOps, BinOp.level, firstRest, Token.rest, BinOp.text, List.isPrefixOf, h1.symm,
        h2, h2.symm]
    | gt =>
      have h1 := hne '>' (by simp [BinOp.longerBy])
      have h2 := hne '=' (by simp [BinOp.longerBy])
      simp [levelOps, BinOp.level, firstRest, Token.rest, BinOp.text, List.isPrefixOf, h1.symm,
        h2, h2.symm]
    | _ => rfl

/-- **An operator is found by no level that binds tighter.** -/
lemma firstRest_tighter {o : BinOp} {r : Text} {level : Nat} (h : level < o.level)
    (hl : ¬ o.Longer r) : firstRest (levelOps level) (o.text ++ r) = none := by
  have hlevel : level = 0 ∨ level = 1 ∨ level = 2 ∨ level = 3 ∨ level = 4 ∨ level = 5 ∨ level = 6 ∨
      level = 7 ∨ level = 8 ∨ level = 9 := by
    have : o.level ≤ 10 := by cases o <;> decide
    omega
  cases r with
  | nil =>
    rcases hlevel with rfl | rfl | rfl | rfl | rfl | rfl | rfl | rfl | rfl | rfl <;> cases o <;>
      first | rfl | exact absurd h (by decide)
  | cons c r =>
    have hne := BinOp.not_longer_cons hl
    rcases hlevel with rfl | rfl | rfl | rfl | rfl | rfl | rfl | rfl | rfl | rfl <;> cases o <;>
      first
      | rfl
      | exact absurd h (by decide)
      | simp_all [levelOps, firstRest, Token.rest, BinOp.text, BinOp.longerBy, List.isPrefixOf]

lemma firstRest_closed {p : Text} {level : Nat}
    (h : p = [] ∨ (∃ r, p = ')' :: r) ∨ ∃ r, p = ']' :: r) :
    firstRest (levelOps level) p = none := by
  rcases h with rfl | ⟨r, rfl⟩ | ⟨r, rfl⟩ <;> unfold levelOps <;> split <;> rfl

lemma firstOf_follows {rest : Text} {level k : Nat} (h : Follows level rest) (hk : k ≤ level) :
    ∃ s', firstOf (levelOps k) rest = (none, s') ∧ skipSpace s' = skipSpace rest := by
  rcases h with hc | ⟨o, r, hlevel, hs, hl⟩
  · exact firstOf_of_none (firstRest_closed hc)
  · exact firstOf_of_none (by rw [hs]; exact firstRest_tighter (by omega) hl)

/-! ## What ends an operand -/

/-- No identifier or `:` goes on. -/
structure Ended (rest : Text) : Prop where
  ident : ∀ c, rest.head? = some c → isIdent c = false
  colon : ∀ c, (skipSpace rest).head? = some c → c ≠ ':'

lemma ended_of_head {rest : Text}
    (h : ∀ c, (skipSpace rest).head? = some c → isIdent c = false ∧ c ≠ ':') : Ended rest := by
  refine ⟨fun c hc => ?_, fun c hc => (h c hc).2⟩
  cases rest with
  | nil => cases hc
  | cons d rest =>
    cases Option.some.inj hc
    cases hs : isSpace c with
    | false => exact (h c (by rw [skipSpace_of_not_space hs]; rfl)).1
    | true =>
      simp only [isSpace, Bool.or_eq_true, beq_iff_eq] at hs
      rcases hs with rfl | rfl <;> decide

lemma Follows.ended {level : Nat} {rest : Text} (h : Follows level rest) : Ended rest := by
  refine ended_of_head fun c hc => ?_
  rcases h with (h | ⟨r, h⟩ | ⟨r, h⟩) | ⟨o, r, -, h, -⟩
  · rw [h] at hc
    cases hc
  · rw [h] at hc
    cases hc
    decide
  · rw [h] at hc
    cases hc
    decide
  · rw [h] at hc
    cases o <;> cases hc <;> decide

/-! ## Numbers -/

inductive Radix
  | decimal
  | hex (x : Char)
  | riscos
  deriving DecidableEq, Repr

def Radix.mark : Radix → Text
  | decimal => []
  | hex x => ['0', x]
  | riscos => ['&']

def Radix.base : Radix → Nat
  | decimal => 10
  | hex _ => 16
  | riscos => 16

def decimalDigits : List Char := ['0', '1', '2', '3', '4', '5', '6', '7', '8', '9']

def hexDigits : List Char :=
  decimalDigits ++ ['a', 'b', 'c', 'd', 'e', 'f', 'A', 'B', 'C', 'D', 'E', 'F']

def Radix.digits : Radix → List Char
  | decimal => decimalDigits
  | hex _ => hexDigits
  | riscos => hexDigits

def digitValue (c : Char) : Nat :=
  if c ≤ '9' then c.toNat - '0'.toNat
  else if c ≤ 'F' then c.toNat - 'A'.toNat + 10
  else c.toNat - 'a'.toNat + 10

structure Numeral where
  radix : Radix
  digits : List Char
  deriving DecidableEq, Repr

def Numeral.text (n : Numeral) : Text := n.radix.mark ++ n.digits

def Numeral.value (n : Numeral) : Nat :=
  n.digits.foldl (fun v c => v * n.radix.base + digitValue c) 0

/-- Digits, and digits of its radix. -/
def Numeral.Wf (n : Numeral) : Prop :=
  n.digits ≠ [] ∧ (∀ c ∈ n.digits, c ∈ n.radix.digits) ∧ ∀ x, n.radix = .hex x → x = 'x' ∨ x = 'X'

lemma digitOf_decimal : ∀ c ∈ decimalDigits, digitOf 10 c = some (.ofNat (digitValue c)) := by
  decide

lemma digitOf_hex : ∀ c ∈ hexDigits, digitOf 16 c = some (.ofNat (digitValue c)) := by
  decide

lemma Radix.digitOf_eq (radix : Radix) {c : Char} (h : c ∈ radix.digits) :
    digitOf (.ofNat radix.base) c = some (.ofNat (digitValue c)) := by
  cases radix with
  | decimal => exact digitOf_decimal c h
  | hex x => exact digitOf_hex c h
  | riscos => exact digitOf_hex c h

lemma lower_of_not_ident {c : Char} (h : isIdent c = false) : lower c = c := by
  simp only [isIdent, Bool.or_eq_false_iff, Bool.and_eq_false_iff, decide_eq_false_iff_not] at h
  rw [lower, if_neg]
  rintro ⟨h1, h2⟩
  rcases h.1.1.2 with h' | h'
  · exact h' h1
  · exact h' h2

lemma digitOf_of_not_ident {c : Char} (base : UInt32) (h : isIdent c = false) :
    digitOf base c = none := by
  have hl := lower_of_not_ident h
  simp only [isIdent, Bool.or_eq_false_iff, Bool.and_eq_false_iff, decide_eq_false_iff_not] at h
  simp only [digitOf, hl, h.1.2, Bool.false_eq_true, if_false]
  rw [if_neg]
  rintro ⟨-, h1, h2⟩
  rcases h.1.1.1 with h' | h'
  · exact h' h1
  · exact h' (Char.le_trans h2 (by decide : 'f' ≤ 'z'))

lemma parseDigits_append (radix : Radix) {ds rest : Text} (hds : ∀ c ∈ ds, c ∈ radix.digits)
    (hrest : ∀ c, rest.head? = some c → isIdent c = false) :
    ∀ (v n : Nat), parseDigits (.ofNat radix.base) (.ofNat v) n (ds ++ rest) =
      (.ofNat (ds.foldl (fun v c => v * radix.base + digitValue c) v), n + ds.length, rest) := by
  induction ds with
  | nil =>
    intro v n
    cases rest with
    | nil => rfl
    | cons c rest =>
      have hc := digitOf_of_not_ident (.ofNat radix.base) (hrest c rfl)
      simp only [List.nil_append, parseDigits, hc]
      rfl
  | cons c ds ih =>
    intro v n
    have hc := radix.digitOf_eq (hds c (by simp))
    have hv : UInt32.ofNat v * .ofNat radix.base + .ofNat (digitValue c) =
        .ofNat (v * radix.base + digitValue c) := by
      rw [UInt32.ofNat_add, UInt32.ofNat_mul]
    simp only [List.cons_append, parseDigits, hc, hv]
    rw [ih (fun c hc => hds c (by simp [hc])), List.foldl_cons, List.length_cons,
      Nat.add_assoc, Nat.add_comm 1]

lemma decimal_plain : ∀ c ∈ decimalDigits, c ≠ '&' ∧ lower c ≠ 'x' := by decide

lemma numberBase_text {n : Numeral} {rest : Text} (hn : n.Wf)
    (hrest : ∀ c, rest.head? = some c → isIdent c = false) :
    numberBase (n.text ++ rest) = (.ofNat n.radix.base, n.digits ++ rest) := by
  obtain ⟨hne, hds, hx⟩ := hn
  obtain ⟨radix, ds⟩ := n
  cases radix with
  | riscos => rfl
  | hex x =>
    rcases hx x rfl with rfl | rfl <;> rfl
  | decimal =>
    cases ds with
    | nil => exact absurd rfl hne
    | cons d ds =>
      have hd := decimal_plain d (hds d (by simp))
      show numberBase (d :: (ds ++ rest)) = (10, d :: (ds ++ rest))
      unfold numberBase
      split
      · rename_i h
        exact absurd (List.cons.inj h).1 hd.1
      · rename_i x s h
        obtain ⟨rfl, htail⟩ := List.cons.inj h
        rw [if_neg]
        · rw [htail]
        -- what comes after a zero is another digit, or ends the number
        · cases ds with
          | nil =>
            have hi := hrest x (by rw [← List.nil_append rest, htail]; rfl)
            rw [lower_of_not_ident hi]
            rintro rfl
            cases hi
          | cons d' ds =>
            obtain ⟨rfl, -⟩ := List.cons.inj htail
            exact (decimal_plain d' (hds d' (by simp))).2
      · rfl

/-- **A number is read as it is written.** -/
lemma parseNumber_text {n : Numeral} {rest : Text} (hn : n.Wf)
    (hrest : ∀ c, rest.head? = some c → isIdent c = false) :
    parseNumber (n.text ++ rest) = .ok (.ofNat n.value, rest) := by
  have hp : parseDigits (.ofNat n.radix.base) 0 0 (n.digits ++ rest) =
      (.ofNat n.value, 0 + n.digits.length, rest) :=
    parseDigits_append n.radix hn.2.1 hrest 0 0
  have hlen : ¬ 0 + n.digits.length = 0 := by
    have := List.length_pos_iff.2 hn.1
    omega
  simp only [parseNumber, numberBase_text hn hrest, hp, hlen, if_false]

/-! ## Names -/

inductive Name
  | register (reg : Fin 16)
  | cpsr
  | flag (f : Flag)
  deriving DecidableEq, Repr

def Name.expr : Name → Expr
  | register reg => .register reg
  | cpsr => .cpsr
  | flag f => .flag f

/-- `r0` to `r15`. -/
def registerName (reg : Fin 16) : Text :=
  if reg.val < 10 then ['r', Char.ofNat ('0'.toNat + reg.val)]
  else ['r', '1', Char.ofNat ('0'.toNat + (reg.val - 10))]

local instance registers_ne_zero : NeZero 16 := ⟨by decide⟩

def Name.spellings : Name → List Text
  | register reg =>
    registerName reg ::
      (if reg = 15 then [['p', 'c']] else if reg = 13 then [['s', 'p']]
        else if reg = 14 then [['l', 'r']] else [])
  | cpsr => [['c', 'p', 's', 'r']]
  | flag .n => [['n']]
  | flag .z => [['z']]
  | flag .c => [['c']]
  | flag .v => [['v']]

lemma Name.spellings_read (n : Name) : ∀ name ∈ n.spellings,
    namedValue treeValues name = .ok n.expr ∧ name ≠ [] ∧ name.length ≤ 7 ∧
      ∀ c ∈ name, isIdent c = true := by
  cases n with
  | register reg => revert reg; decide
  | cpsr => decide
  | flag f => cases f <;> decide

lemma isIdent_of_lower {c : Char} (h : isIdent (lower c) = true) : isIdent c = true := by
  cases hc : isIdent c with
  | true => rfl
  | false => rwa [lower_of_not_ident hc, hc] at h

/-- **A name is read as it is written**, in either case. -/
lemma parseIdentifier_text {n : Name} {spelled rest : Text}
    (hn : spelled.map lower ∈ n.spellings)
    (hrest : ∀ c, rest.head? = some c → isIdent c = false) :
    parseIdentifier treeValues (spelled ++ rest) = .ok (n.expr, rest) := by
  obtain ⟨hv, hne, hlen, hid⟩ := n.spellings_read _ hn
  rw [List.length_map] at hlen
  have hids : ∀ c ∈ spelled, isIdent c = true := fun c hc =>
    isIdent_of_lower (hid (lower c) (List.mem_map_of_mem hc))
  have htake : ((spelled ++ rest).take 7).takeWhile isIdent = spelled := by
    rw [List.take_append, List.take_of_length_le hlen, List.takeWhile_append_of_pos hids]
    cases hr : rest.take (7 - spelled.length) with
    | nil => simp
    | cons c t =>
      have hhead : rest.head? = some c := by
        cases rest with
        | nil => simp at hr
        | cons d rest =>
          cases hm : 7 - spelled.length with
          | zero => simp [hm] at hr
          | succ m =>
            rw [hm, List.take_succ_cons] at hr
            rw [(List.cons.inj hr).1]
            rfl
      rw [List.takeWhile_cons_of_neg (by rw [hrest c hhead]; decide), List.append_nil]
  have hne' : spelled ≠ [] := by
    rintro rfl
    exact hne rfl
  have hany : (rest.head?.any isIdent) = false := by
    cases hh : rest.head? with
    | none => rfl
    | some c => exact hrest c hh
  simp only [parseIdentifier, htake, List.drop_left, if_neg hne', hany, Bool.false_eq_true,
    if_false, hv]
  rfl

/-! ## The loops come to an end -/

lemma accept_shrinks {text s r : Text} {b : Bool} (h : accept text s = (b, r)) :
    r.length ≤ s.length := by
  have hs := skipSpace_length s
  simp only [accept] at h
  split_ifs at h <;> cases h
  · exact Nat.le_trans (by rw [List.length_drop]; omega) hs
  · exact hs

lemma accept_consumes {text s r : Text} (ht : text ≠ []) (h : accept text s = (true, r)) :
    r.length < s.length := by
  have hs := skipSpace_length s
  simp only [accept] at h
  split_ifs at h with hp
  · obtain ⟨-, rfl⟩ := Prod.mk.inj h
    have hle := (List.isPrefixOf_iff_prefix.1 hp).length_le
    have hpos := List.length_pos_iff.2 ht
    rw [List.length_drop]
    omega
  · cases h

lemma acceptExact_shrinks {text no s r : Text} {b : Bool} (h : acceptExact text no s = (b, r)) :
    r.length ≤ s.length := by
  have hs := skipSpace_length s
  simp only [acceptExact] at h
  split_ifs at h <;> cases h
  · exact Nat.le_refl _
  · exact Nat.le_trans (by rw [List.length_drop]; omega) hs
  · exact Nat.le_refl _

lemma acceptExact_consumes {text no s r : Text} (ht : text ≠ [])
    (h : acceptExact text no s = (true, r)) : r.length < s.length := by
  have hs := skipSpace_length s
  simp only [acceptExact] at h
  split_ifs at h with hp hf
  · cases h
  · obtain ⟨-, rfl⟩ := Prod.mk.inj h
    have hle := (List.isPrefixOf_iff_prefix.1 hp).length_le
    have hpos := List.length_pos_iff.2 ht
    rw [List.length_drop]
    omega
  · cases h

lemma Token.take_shrinks {ω : Type} {t : Token ω} {s r : Text} {b : Bool} (h : t.take s = (b, r)) :
    r.length ≤ s.length := by
  rw [Token.take] at h
  split at h
  · exact accept_shrinks h
  · exact acceptExact_shrinks h

lemma Token.take_consumes {ω : Type} {t : Token ω} {s r : Text} (ht : t.text ≠ [])
    (h : t.take s = (true, r)) : r.length < s.length := by
  rw [Token.take] at h
  split at h
  · exact accept_consumes ht h
  · exact acceptExact_consumes ht h

lemma firstOf_consumes {ω : Type} {ops : List (Token ω)} (h : ∀ t ∈ ops, t.text ≠ []) :
    Consumes (firstOf ops) := by
  induction ops with
  | nil =>
    refine ⟨fun s o s' hf => ?_, fun s s' hf => ?_⟩
    · cases hf
    · cases hf
      exact Nat.le_refl _
  | cons t ops ih =>
    have hops := ih fun t ht => h t (by simp [ht])
    refine ⟨fun s o s' hf => ?_, fun s s' hf => ?_⟩
    · rw [firstOf] at hf
      split at hf
      · rename_i r htake
        cases hf
        exact Token.take_consumes (h t (by simp)) htake
      · rename_i r htake
        exact Nat.lt_of_lt_of_le (hops.some _ _ _ hf) (Token.take_shrinks htake)
    · rw [firstOf] at hf
      split at hf
      · cases hf
      · rename_i r htake
        exact Nat.le_trans (hops.none _ _ hf) (Token.take_shrinks htake)

lemma levelOps_consumes (level : Nat) : Consumes (firstOf (levelOps level)) := by
  refine firstOf_consumes ?_
  unfold levelOps
  split <;> decide

lemma parseDigits_shrinks (base : UInt32) (s : Text) :
    ∀ v n, (parseDigits base v n s).2.2.length ≤ s.length := by
  induction s with
  | nil => exact fun _ _ => Nat.le_refl _
  | cons c s ih =>
    intro v n
    rw [parseDigits]
    split
    · exact Nat.le_trans (ih _ _) (Nat.le_succ _)
    · exact Nat.le_refl _

lemma numberBase_shrinks (s : Text) : (numberBase s).2.length ≤ s.length := by
  unfold numberBase
  split
  · exact Nat.le_succ _
  · split_ifs
    · simp only [List.length_cons]
      omega
    · exact Nat.le_refl _
  · exact Nat.le_refl _

lemma parseNumber_shrinks : Shrinks parseNumber := by
  intro s v r h
  simp only [parseNumber] at h
  split_ifs at h
  cases h
  exact Nat.le_trans (parseDigits_shrinks _ _ _ _) (numberBase_shrinks s)

lemma accessSize_shrinks : Shrinks accessSize := by
  intro s v r h
  rw [accessSize] at h
  split at h
  · cases h
  · rename_i s1 h1
    have hs1 := accept_shrinks h1
    split at h
    · rename_i s2 h2
      cases h
      exact Nat.le_trans (accept_shrinks h2) hs1
    · rename_i s2 h2
      have hs2 := Nat.le_trans (accept_shrinks h2) hs1
      cases hn : parseNumber (skipSpace s2) with
      | error e => simp [hn, bind, Except.bind] at h
      | ok out =>
        have hs3 := parseNumber_shrinks _ _ _ hn
        have hs4 := skipSpace_length s2
        simp only [hn, bind, Except.bind] at h
        split_ifs at h
        cases h
        omega

lemma closeParen_shrinks : Shrinks closeParen := by
  intro s v r h
  rw [closeParen] at h
  split at h
  · rename_i s1 h1
    cases h
    exact accept_shrinks h1
  · cases h

section Shrinks

variable {α : Type} {V : Values α}

lemma parseIdentifier_shrinks : Shrinks (parseIdentifier V) := by
  intro s v r h
  simp only [parseIdentifier] at h
  split_ifs at h
  cases hv : namedValue V (((s.take 7).takeWhile isIdent).map lower) with
  | error e => simp [hv, bind, Except.bind] at h
  | ok w =>
    simp only [hv, bind, Except.bind] at h
    cases h
    rw [List.length_drop]
    omega

lemma parsePrimary_shrinks {expr : Reads α} (he : Shrinks expr) :
    Shrinks (parsePrimary V expr) := by
  intro s v r h
  have hs := skipSpace_length s
  simp only [parsePrimary] at h
  split_ifs at h
  split at h
  · rename_i s1 h1
    have hs1 := accept_shrinks h1
    have hs2 := followed_shrinks he closeParen_shrinks _ _ _ h
    omega
  · rename_i s1 h1
    have hs1 := accept_shrinks h1
    split at h
    · rename_i s2 h2
      have hs2 := accept_shrinks h2
      have hs3 := followed_shrinks he accessSize_shrinks _ _ _ h
      omega
    · rename_i s2 h2
      have hs2 := accept_shrinks h2
      split_ifs at h
      · cases hn : parseNumber s2 with
        | error e => simp [hn, bind, Except.bind] at h
        | ok out =>
          simp only [hn, bind, Except.bind] at h
          cases h
          have hs3 := parseNumber_shrinks _ _ _ hn
          omega
      · have hs3 := parseIdentifier_shrinks _ _ _ h
        omega

lemma parseLevel_shrinks (level : Nat) {sub : Reads α} (h : Shrinks sub) :
    Shrinks (parseLevel V level sub) :=
  chainl_shrinks h (levelOps_consumes level)

lemma parseAnd_shrinks {unary : Reads α} (h : Shrinks unary) : Shrinks (parseAnd V unary) := by
  have h3 : Shrinks (parseShift V unary) :=
    parseLevel_shrinks 3 (parseLevel_shrinks 2 (parseLevel_shrinks 1 h))
  have h6 : Shrinks (parseBitand V unary) :=
    parseLevel_shrinks 6 (parseLevel_shrinks 5 (parseLevel_shrinks 4 h3))
  exact parseLevel_shrinks 9 (parseLevel_shrinks 8 (parseLevel_shrinks 7 h6))

lemma parse_shrinks (V : Values α) (depth : Nat) :
    Shrinks (parseUnary V depth) ∧ Shrinks (parseExpr V depth) := by
  induction depth with
  | zero =>
    refine ⟨fun s v r h => ?_, fun s v r h => ?_⟩
    · rw [parseUnary] at h
      cases h
    · rw [parseExpr] at h
      cases h
  | succ depth ih =>
    obtain ⟨hu, he⟩ := ih
    refine ⟨fun s v r h => ?_, fun s v r h => ?_⟩
    · have hs := skipSpace_length s
      have hops : Consumes (firstOf unaryOps) := firstOf_consumes (by decide)
      rw [parseUnary] at h
      split at h
      · rename_i o s1 h1
        have hs1 := hops.some _ _ _ h1
        cases hp : parseUnary V depth s1 with
        | error e => simp [hp, bind, Except.bind] at h
        | ok out =>
          simp only [hp, bind, Except.bind] at h
          cases h
          have hs2 := hu _ _ _ hp
          omega
      · rename_i s1 h1
        have hs1 := hops.none _ _ h1
        have hs2 := parsePrimary_shrinks he _ _ _ h
        omega
    · rw [parseExpr] at h
      exact parseLevel_shrinks 10 (parseAnd_shrinks hu) _ _ _ h

end Shrinks

end RpcEmu.DebugExpr
