import RpcEmu.Debug.Tokens

/-!
# Printed expressions mean what they say

An expression as it stands on the page, with its spaces and its parentheses, and what
`debugexpr_eval` makes of it.

* `Written` is a printed expression.  `Written.text` is the text, `Written.tree` what it stands for,
  and `Written.Wf` says that it is printed with the precedence and the associativity of C.
* **Nesting.**  Each parenthesis and each memory reference costs two levels, one for `parse_expr` and
  one for `parse_unary`, and each unary operator one.
* **The one ambiguity** is the RISC OS hexadecimal mark right after a bitwise and: `1&&10` is a
  logical and.  `Written.Apart` says that a space keeps the two apart.
-/

namespace RpcEmu.DebugExpr

open Chains

inductive Written
  | number (sp : Text) (n : Numeral)
  | name (sp spelled : Text) (n : Name)
  | paren (sp : Text) (e : Written) (sp' : Text)
  | memory (sp : Text) (addr : Written) (sp' : Text) (size : Option (Text × Text × Numeral))
  | unary (sp : Text) (o : UnOp) (e : Written)
  | binary (o : BinOp) (l : Written) (sp : Text) (r : Written)

/-- `:size`, if it is printed. -/
def sizeText : Option (Text × Text × Numeral) → Text
  | none => []
  | some (sp, sp', n) => sp ++ ':' :: (sp' ++ n.text)

def sizeValue : Option (Text × Text × Numeral) → UInt32
  | none => 4
  | some (_, _, n) => .ofNat n.value

def Written.text : Written → Text
  | number sp n => sp ++ n.text
  | name sp spelled _ => sp ++ spelled
  | paren sp e sp' => sp ++ '(' :: (e.text ++ (sp' ++ [')']))
  | memory sp addr sp' size => sp ++ '[' :: (addr.text ++ (sp' ++ ']' :: sizeText size))
  | unary sp o e => sp ++ (o.text ++ e.text)
  | binary o l sp r => l.text ++ (sp ++ (o.text ++ r.text))

def Written.tree : Written → Expr
  | number _ n => .number (.ofNat n.value)
  | name _ _ n => n.expr
  | paren _ e _ => e.tree
  | memory _ addr _ size => .memory addr.tree (sizeValue size)
  | unary _ o e => .unary o e.tree
  | binary o l _ r => .binary o l.tree r.tree

def Written.level : Written → Nat
  | binary o _ _ _ => o.level
  | _ => 0

def Written.nesting : Written → Nat
  | number _ _ => 1
  | name _ _ _ => 1
  | paren _ e _ => e.nesting + 2
  | memory _ addr _ _ => addr.nesting + 2
  | unary _ _ e => e.nesting + 1
  | binary _ l _ r => max l.nesting r.nesting

/-- Nothing but spaces. -/
def Spaces (sp : Text) : Prop := ∀ c ∈ sp, isSpace c = true

/-- The size of a memory operand, if written, is 1, 2 or 4. -/
def SizeWf (size : Option (Text × Text × Numeral)) : Prop :=
  ∀ sp sp' n, size = some (sp, sp', n) →
    Spaces sp ∧ Spaces sp' ∧ n.Wf ∧ (n.value = 1 ∨ n.value = 2 ∨ n.value = 4)

/-- **Printed as in C**: operands of a unary operator are operands or parenthesised, a left operand
binds no looser than its operator and a right operand binds tighter. -/
def Written.Wf : Written → Prop
  | number sp n => Spaces sp ∧ n.Wf
  | name sp spelled n => Spaces sp ∧ spelled.map lower ∈ n.spellings
  | paren sp e sp' => Spaces sp ∧ Spaces sp' ∧ e.Wf
  | memory sp addr sp' size => Spaces sp ∧ Spaces sp' ∧ addr.Wf ∧ SizeWf size
  | unary sp _ e => Spaces sp ∧ e.Wf ∧ e.level = 0
  | binary o l sp r => Spaces sp ∧ l.Wf ∧ r.Wf ∧ l.level ≤ o.level ∧ r.level < o.level

/-- No `&` of the text is right before another. -/
def Written.Apart : Written → Prop
  | number _ _ => True
  | name _ _ _ => True
  | paren _ e _ => e.Apart
  | memory _ addr _ _ => addr.Apart
  | unary _ _ e => e.Apart
  | binary o l _ r => (o = .bitAnd → r.text.head? ≠ some '&') ∧ l.Apart ∧ r.Apart

/-! ## Operands -/

def opensNumber (c : Char) : Bool := isDigit c || c == '&'

section Operands

variable {α : Type} {V : Values α} {expr : Reads α} {s t : Text} {c : Char}

lemma accept_head (h : skipSpace s = c :: t) : accept [c] s = (true, t) := by
  simp [accept, h]

lemma accept_other {d : Char} (h : skipSpace s = c :: t) (hd : d ≠ c) :
    accept [d] s = (false, skipSpace s) := by
  simp [accept, h, hd]

lemma parsePrimary_group (h : skipSpace s = '(' :: t) :
    parsePrimary V expr s = followed expr closeParen (fun _ v => .ok v) t := by
  have hne : skipSpace s ≠ [] := by rw [h]; simp
  simp only [parsePrimary, if_neg hne]
  rw [accept_head (s := skipSpace s) (by rw [skipSpace_skipSpace, h])]

lemma parsePrimary_memory (h : skipSpace s = '[' :: t) :
    parsePrimary V expr s = parseMemory V expr t := by
  have hne : skipSpace s ≠ [] := by rw [h]; simp
  have hs : skipSpace (skipSpace s) = '[' :: t := by rw [skipSpace_skipSpace, h]
  simp only [parsePrimary, if_neg hne]
  rw [accept_other hs (by decide)]
  simp only []
  rw [accept_head (s := skipSpace (skipSpace s)) (by rw [skipSpace_skipSpace, hs])]

lemma parsePrimary_plain (h : skipSpace s = c :: t) (hp : c ≠ '(') (hb : c ≠ '[') :
    parsePrimary V expr s =
      if opensNumber c then do
        let (v, s) ← parseNumber (c :: t)
        .ok (V.number v, s)
      else parseIdentifier V (c :: t) := by
  have hne : skipSpace s ≠ [] := by rw [h]; simp
  have hs : skipSpace (skipSpace s) = c :: t := by rw [skipSpace_skipSpace, h]
  have hs' : skipSpace (skipSpace (skipSpace s)) = c :: t := by rw [skipSpace_skipSpace, hs]
  simp only [parsePrimary, if_neg hne]
  rw [accept_other hs hp.symm]
  simp only []
  rw [accept_other hs' hb.symm]
  simp only [hs', List.head?_cons, Option.any_some]
  rfl

lemma firstRest_unary_none (h1 : c ≠ '!') (h2 : c ≠ '~') (h3 : c ≠ '-') :
    firstRest unaryOps (c :: t) = none := by
  simp [unaryOps, firstRest, Token.rest, List.isPrefixOf, h1.symm, h2.symm, h3.symm]

lemma parseUnary_primary (depth : Nat) (h : skipSpace s = c :: t) (h1 : c ≠ '!') (h2 : c ≠ '~')
    (h3 : c ≠ '-') :
    ∃ s', parseUnary V (depth + 1) s = parsePrimary V (parseExpr V depth) s' ∧
      skipSpace s' = c :: t := by
  have hs : skipSpace (skipSpace s) = c :: t := by rw [skipSpace_skipSpace, h]
  have hn : firstRest unaryOps (skipSpace (skipSpace s)) = none := by
    rw [hs]
    exact firstRest_unary_none h1 h2 h3
  obtain ⟨s', hf, hs'⟩ := firstOf_of_none hn
  exact ⟨s', by rw [parseUnary, hf], hs'.trans hs⟩

lemma parseUnary_unary {depth : Nat} {o : UnOp} {v : α} {r : Text} (h : skipSpace s = o.text ++ t)
    (ht : t.head? ≠ some '=') (hv : parseUnary V depth t = .ok (v, r)) :
    parseUnary V (depth + 1) s = .ok (V.unary o v, r) := by
  have hrest : firstRest unaryOps (o.text ++ t) = some (o, t) := by
    cases t with
    | nil => cases o <;> rfl
    | cons c t =>
      have hc : c ≠ '=' := fun hc => ht (by rw [hc]; rfl)
      cases o with
      | not => simp [unaryOps, firstRest, Token.rest, List.isPrefixOf, UnOp.text, hc]
      | _ => rfl
  rw [parseUnary, firstOf_of_some (by rw [skipSpace_skipSpace, h]; exact hrest)]
  simp only [hv]
  rfl

end Operands

/-! ## Levels -/

/-- The levels up to one, over a parser of operands: `parse_mul` is level 1 and `parse_and` 9. -/
def parseUpTo {α : Type} (V : Values α) (unary : Reads α) : Nat → Reads α
  | 0 => unary
  | level + 1 => parseLevel V (level + 1) (parseUpTo V unary level)

lemma parseExpr_succ {α : Type} (V : Values α) (depth : Nat) (s : Text) :
    parseExpr V (depth + 1) s = parseUpTo V (parseUnary V depth) 10 s := by
  rw [parseExpr]
  rfl

lemma parseUpTo_shrinks {α : Type} {V : Values α} {unary : Reads α} (h : Shrinks unary)
    (level : Nat) : Shrinks (parseUpTo V unary level) := by
  induction level with
  | zero => exact h
  | succ level ih => exact parseLevel_shrinks (level + 1) ih

/-- Before any text that may follow, the parser reads the tree and stops. -/
def Written.ReadsAs (w : Written) (depth level : Nat) : Prop :=
  ∀ rest, Follows level rest → ∃ r,
    parseUpTo treeValues (parseUnary treeValues depth) level (w.text ++ rest) = .ok (w.tree, r) ∧
      skipSpace r = skipSpace rest

/-- As `ReadsAs`, where an operator of the next level may follow. -/
def Written.Starts (w : Written) (depth level : Nat) : Prop :=
  ∀ rest, Follows level rest → ∃ r,
    parseUpTo treeValues (parseUnary treeValues depth) (level + 1) (w.text ++ rest) =
      chain (parseUpTo treeValues (parseUnary treeValues depth) level)
        (firstOf (levelOps (level + 1))) treeValues.binary (r.length + 1) w.tree r ∧
      skipSpace r = skipSpace rest

section Levels

variable {w : Written} {depth level : Nat}

lemma Follows.of_skipSpace {rest r : Text} (h : Follows level rest)
    (hr : skipSpace r = skipSpace rest) : Follows level r := by
  rw [Follows, hr]
  exact h

lemma Follows.mono {rest : Text} {level' : Nat} (h : Follows level rest) (hl : level' ≤ level) :
    Follows level' rest := by
  rcases h with h | ⟨o, r, ho, h⟩
  · exact .inl h
  · exact .inr ⟨o, r, by omega, h⟩

lemma Written.ReadsAs.starts (h : w.ReadsAs depth level) : w.Starts depth level := by
  intro rest hrest
  obtain ⟨r, hp, hr⟩ := h rest hrest
  exact ⟨r, chainl_ok hp, hr⟩

lemma Written.Starts.reads (h : w.Starts depth level) : w.ReadsAs depth (level + 1) := by
  intro rest hrest
  obtain ⟨r, hp, hr⟩ := h rest (hrest.mono (Nat.le_succ level))
  obtain ⟨r', hf, hr'⟩ := firstOf_follows (hrest.of_skipSpace hr) (Nat.le_refl _)
  exact ⟨r', by rw [hp, chain_none hf], hr'.trans hr⟩

lemma Written.ReadsAs.mono {level' : Nat} (h : w.ReadsAs depth level) (hl : level ≤ level') :
    w.ReadsAs depth level' := by
  induction level', hl using Nat.le_induction with
  | base => exact h
  | succ n _ ih => exact ih.starts.reads

/-- The text is read as its tree at every level it can stand at. -/
structure Written.Reads (w : Written) (depth : Nat) : Prop where
  whole : ∀ level, w.level ≤ level → w.ReadsAs depth level
  starts : ∀ level, w.level ≤ level + 1 → w.Starts depth level

lemma Written.Reads.of_operand (h : w.ReadsAs depth 0) : w.Reads depth :=
  ⟨fun _ _ => h.mono (Nat.zero_le _), fun _ _ => (h.mono (Nat.zero_le _)).starts⟩

lemma Written.Reads.of_starts (hl : w.level = level + 1) (h : w.Starts depth level) :
    w.Reads depth := by
  refine ⟨fun level' h' => h.reads.mono (by omega), fun level' h' => ?_⟩
  rcases Nat.lt_or_ge level level' with hlt | hge
  · exact (h.reads.mono hlt).starts
  · have he : level' = level := by omega
    rw [he]
    exact h

end Levels

/-! ## The round trip -/

/-- A character that makes no operator longer, unless it is an `&`. -/
abbrev Opens (c : Char) : Prop := c ≠ '=' ∧ c ≠ '<' ∧ c ≠ '>' ∧ c ≠ '|'

lemma ne_of_holds {p : Char → Bool} {c d : Char} (hc : p c = true) (hd : p d = false) : c ≠ d := by
  rintro rfl
  rw [hd] at hc
  cases hc

lemma not_space_of {p : Char → Bool} {c : Char} (hc : p c = true)
    (hp : p ' ' = false ∧ p '\t' = false) : isSpace c = false := by
  simp [isSpace, ne_of_holds hc hp.1, ne_of_holds hc hp.2]

lemma opens_of {p : Char → Bool} {c : Char} (hc : p c = true)
    (hp : ∀ d ∈ ['=', '<', '>', '|'], p d = false) : Opens c := by
  refine ⟨?_, ?_, ?_, ?_⟩ <;> exact ne_of_holds hc (hp _ (by decide))

lemma Numeral.head_text {n : Numeral} (h : n.Wf) :
    ∃ c t, n.text = c :: t ∧ opensNumber c = true := by
  obtain ⟨radix, ds⟩ := n
  cases radix with
  | riscos => exact ⟨_, _, rfl, rfl⟩
  | hex x => exact ⟨_, _, rfl, rfl⟩
  | decimal =>
    cases ds with
    | nil => exact absurd rfl h.1
    | cons d ds =>
      refine ⟨d, ds, rfl, ?_⟩
      have hall : ∀ c ∈ decimalDigits, opensNumber c = true := by decide
      exact hall d (h.2.1 d (by simp))

lemma Name.spellings_head (n : Name) :
    ∀ name ∈ n.spellings, ∀ c, name.head? = some c → isDigit c = false := by
  have hall : ∀ name ∈ n.spellings, name.head?.all (fun c => !isDigit c) = true := by
    cases n with
    | register reg => revert reg; decide
    | cpsr => decide
    | flag f => cases f <;> decide
  intro name hn c hc
  have h := hall name hn
  rw [hc] at h
  simpa using h

lemma Name.head_text {n : Name} {spelled : Text} (h : spelled.map lower ∈ n.spellings) :
    ∃ c t, spelled = c :: t ∧ isIdent c = true ∧ isDigit c = false := by
  obtain ⟨-, hne, -, hid⟩ := n.spellings_read _ h
  cases spelled with
  | nil => exact absurd rfl hne
  | cons c t =>
    refine ⟨c, t, rfl, isIdent_of_lower (hid (lower c) (by simp)), ?_⟩
    have hc := n.spellings_head _ h (lower c) rfl
    cases hd : isDigit c with
    | false => rfl
    | true =>
      -- a digit is its own lower case
      have hl : lower c = c := by
        rw [isDigit, Bool.and_eq_true, decide_eq_true_eq, decide_eq_true_eq] at hd
        rw [lower, if_neg]
        rintro ⟨h1, -⟩
        exact absurd (Char.le_trans h1 hd.2) (by decide)
      rw [hl, hd] at hc
      cases hc

lemma opens_after_spaces {sp t : Text} (hsp : Spaces sp) (ht : ∃ c t', t = c :: t' ∧ Opens c) :
    ∃ c t', sp ++ t = c :: t' ∧ Opens c := by
  cases sp with
  | nil => exact ht
  | cons c sp => exact ⟨c, sp ++ t, rfl, opens_of (hsp c (by simp)) (by decide)⟩

lemma Written.head_text {w : Written} (hw : w.Wf) : ∃ c t, w.text = c :: t ∧ Opens c := by
  induction w with
  | number sp n =>
    obtain ⟨c, t, hn, hc⟩ := n.head_text hw.2
    exact opens_after_spaces hw.1 ⟨c, t, hn, opens_of hc (by decide)⟩
  | name sp spelled n =>
    obtain ⟨c, t, hn, hc, -⟩ := n.head_text hw.2
    exact opens_after_spaces hw.1 ⟨c, t, hn, opens_of hc (by decide)⟩
  | paren sp e sp' => exact opens_after_spaces hw.1 ⟨'(', _, rfl, by decide⟩
  | memory sp addr sp' size => exact opens_after_spaces hw.1 ⟨'[', _, rfl, by decide⟩
  | unary sp o e => cases o <;> exact opens_after_spaces hw.1 ⟨_, _, rfl, by decide⟩
  | binary o l sp r ihl _ =>
    obtain ⟨c, t, hl, hc⟩ := ihl hw.2.1
    exact ⟨c, _, by rw [Written.text, hl]; rfl, hc⟩

lemma BinOp.skipSpace_text (o : BinOp) (t : Text) : skipSpace (o.text ++ t) = o.text ++ t := by
  cases o <;> rfl

lemma UnOp.skipSpace_text (o : UnOp) (t : Text) : skipSpace (o.text ++ t) = o.text ++ t := by
  cases o <;> rfl

lemma BinOp.level_pos (o : BinOp) : ∃ k, o.level = k + 1 ∧ k < 10 := by
  cases o <;> exact ⟨_, rfl, by decide⟩

lemma Written.level_le (w : Written) : w.level ≤ 10 := by
  cases w with
  | binary o l sp r =>
    obtain ⟨k, hk, hlt⟩ := o.level_pos
    rw [Written.level, hk]
    omega
  | _ => exact Nat.zero_le _

lemma not_longer_text {o : BinOp} {w : Written} (hw : w.Wf)
    (ha : o = .bitAnd → w.text.head? ≠ some '&') (rest : Text) : ¬ o.Longer (w.text ++ rest) := by
  obtain ⟨c, t, ht, h1, h2, h3, h4⟩ := w.head_text hw
  rw [ht] at ha ⊢
  rintro ⟨d, hd, hc⟩
  obtain rfl : c = d := Option.some.inj hc
  cases o with
  | bitAnd =>
    rw [BinOp.longerBy, List.mem_singleton] at hd
    exact ha rfl (by rw [hd]; rfl)
  | bitOr => simp_all [BinOp.longerBy]
  | lt => simp_all [BinOp.longerBy]
  | gt => simp_all [BinOp.longerBy]
  | _ => simp [BinOp.longerBy] at hd

lemma accessSize_text {size : Option (Text × Text × Numeral)} {r rest : Text} (hs : SizeWf size)
    (hrest : Ended rest) (hr : skipSpace r = ']' :: (sizeText size ++ rest)) :
    ∃ r', accessSize r = .ok (sizeValue size, r') ∧ skipSpace r' = skipSpace rest := by
  rw [accessSize, accept_head hr]
  cases size with
  | none =>
    refine ⟨skipSpace rest, ?_, skipSpace_skipSpace rest⟩
    have hc : accept [':'] rest = (false, skipSpace rest) := by
      cases hh : skipSpace rest with
      | nil => simp [accept, hh]
      | cons c t =>
        rw [accept_other hh (hrest.colon c (by rw [hh]; rfl)).symm, hh]
    have htext : sizeText none ++ rest = rest := rfl
    simp only [htext, hc]
    rfl
  | some size =>
    obtain ⟨sp, sp', n⟩ := size
    obtain ⟨hsp, hsp', hn, hv⟩ := hs sp sp' n rfl
    refine ⟨rest, ?_, rfl⟩
    have htext : sizeText (some (sp, sp', n)) ++ rest = sp ++ ':' :: (sp' ++ (n.text ++ rest)) := by
      simp [sizeText]
    have hc : accept [':'] (sizeText (some (sp, sp', n)) ++ rest) =
        (true, sp' ++ (n.text ++ rest)) := by
      rw [htext]
      exact accept_head (by rw [skipSpace_append hsp]; rfl)
    have hskip : skipSpace (sp' ++ (n.text ++ rest)) = n.text ++ rest := by
      obtain ⟨c, t, ht, hcd⟩ := n.head_text hn
      rw [skipSpace_append hsp', ht]
      exact skipSpace_of_not_space (not_space_of hcd (by decide))
    simp only [hc, hskip, parseNumber_text hn hrest.ident, bind, Except.bind, sizeValue]
    rcases hv with hv | hv | hv <;> rw [hv] <;> rfl

/-- **The round trip.**  A printed expression is read back, at every level from its own on. -/
theorem Written.reads {w : Written} (hw : w.Wf) (ha : w.Apart) :
    ∀ depth, w.nesting ≤ depth → w.Reads depth := by
  induction w with
  | number sp n =>
    intro depth hd
    obtain ⟨depth, rfl⟩ : ∃ d, depth = d + 1 := ⟨depth - 1, by simp [nesting] at hd; omega⟩
    refine .of_operand fun rest hrest => ⟨rest, ?_, rfl⟩
    obtain ⟨c, t, ht, hc⟩ := n.head_text hw.2
    have hs : skipSpace ((number sp n).text ++ rest) = c :: (t ++ rest) := by
      rw [text, List.append_assoc, skipSpace_append hw.1, ht]
      exact skipSpace_of_not_space (not_space_of hc (by decide))
    obtain ⟨s', hp, hs'⟩ := parseUnary_primary (V := treeValues) depth hs
      (ne_of_holds hc rfl) (ne_of_holds hc rfl) (ne_of_holds hc rfl)
    show parseUnary treeValues (depth + 1) _ = _
    rw [hp, parsePrimary_plain hs' (ne_of_holds hc rfl) (ne_of_holds hc rfl), if_pos hc]
    have hn := parseNumber_text hw.2 hrest.ended.ident
    rw [ht] at hn
    simp only [List.cons_append] at hn
    rw [hn]
    rfl
  | name sp spelled n =>
    intro depth hd
    obtain ⟨depth, rfl⟩ : ∃ d, depth = d + 1 := ⟨depth - 1, by simp [nesting] at hd; omega⟩
    refine .of_operand fun rest hrest => ⟨rest, ?_, rfl⟩
    obtain ⟨c, t, ht, hc, hnd⟩ := n.head_text hw.2
    have hs : skipSpace ((name sp spelled n).text ++ rest) = c :: (t ++ rest) := by
      rw [text, List.append_assoc, skipSpace_append hw.1, ht]
      exact skipSpace_of_not_space (not_space_of hc (by decide))
    obtain ⟨s', hp, hs'⟩ := parseUnary_primary (V := treeValues) depth hs
      (ne_of_holds hc rfl) (ne_of_holds hc rfl) (ne_of_holds hc rfl)
    show parseUnary treeValues (depth + 1) _ = _
    have hcd : ¬ opensNumber c = true := by
      rw [opensNumber, hnd, Bool.false_or, beq_iff_eq]
      exact ne_of_holds hc rfl
    rw [hp, parsePrimary_plain hs' (ne_of_holds hc rfl) (ne_of_holds hc rfl), if_neg hcd]
    have hn := parseIdentifier_text hw.2 hrest.ended.ident
    rw [ht] at hn
    exact hn
  | paren sp e sp' ih =>
    intro depth hd
    obtain ⟨depth, rfl⟩ : ∃ d, depth = d + 2 := ⟨depth - 2, by simp [nesting] at hd; omega⟩
    refine .of_operand fun rest hrest => ⟨rest, ?_, rfl⟩
    have hs : skipSpace ((paren sp e sp').text ++ rest) =
        '(' :: (e.text ++ (sp' ++ ')' :: rest)) := by
      rw [text, List.append_assoc, skipSpace_append hw.1]
      simp [skipSpace, isSpace]
    obtain ⟨s', hp, hs'⟩ := parseUnary_primary (V := treeValues) (depth + 1) hs
      (by decide) (by decide) (by decide)
    have hclose : skipSpace (sp' ++ ')' :: rest) = ')' :: rest := by
      rw [skipSpace_append hw.2.1]
      rfl
    obtain ⟨r, he, hr⟩ := (ih hw.2.2 ha depth (by simp [nesting] at hd; omega)).whole 10
      e.level_le (sp' ++ ')' :: rest) (.inl (.inr (.inl ⟨rest, hclose⟩)))
    have hc : closeParen r = .ok ((), rest) := by
      rw [closeParen, accept_head (hr.trans hclose)]
    show parseUnary treeValues (depth + 1 + 1) _ = _
    rw [hp, parsePrimary_group hs']
    exact followed_ok (by rw [parseExpr_succ, he]; rfl) hc rfl
  | memory sp addr sp' size ih =>
    intro depth hd
    obtain ⟨depth, rfl⟩ : ∃ d, depth = d + 2 := ⟨depth - 2, by simp [nesting] at hd; omega⟩
    refine .of_operand fun rest hrest => ?_
    have hs : skipSpace ((memory sp addr sp' size).text ++ rest) =
        '[' :: (addr.text ++ (sp' ++ ']' :: (sizeText size ++ rest))) := by
      rw [text, List.append_assoc, skipSpace_append hw.1]
      simp [skipSpace, isSpace]
    obtain ⟨s', hp, hs'⟩ := parseUnary_primary (V := treeValues) (depth + 1) hs
      (by decide) (by decide) (by decide)
    have hclose : skipSpace (sp' ++ ']' :: (sizeText size ++ rest)) =
        ']' :: (sizeText size ++ rest) := by
      rw [skipSpace_append hw.2.1]
      rfl
    obtain ⟨r, he, hr⟩ := (ih hw.2.2.1 ha depth (by simp [nesting] at hd; omega)).whole 10
      addr.level_le _ (.inl (.inr (.inr ⟨_, hclose⟩)))
    obtain ⟨r', hsize, hr'⟩ := accessSize_text hw.2.2.2 hrest.ended (hr.trans hclose)
    refine ⟨r', ?_, hr'⟩
    show parseUnary treeValues (depth + 1 + 1) _ = _
    rw [hp, parsePrimary_memory hs']
    exact followed_ok (by rw [parseExpr_succ, he]) hsize rfl
  | unary sp o e ih =>
    intro depth hd
    obtain ⟨depth, rfl⟩ : ∃ d, depth = d + 1 := ⟨depth - 1, by simp [nesting] at hd; omega⟩
    refine .of_operand fun rest hrest => ?_
    have hs : skipSpace ((unary sp o e).text ++ rest) = o.text ++ (e.text ++ rest) := by
      rw [text, List.append_assoc, skipSpace_append hw.1, List.append_assoc, o.skipSpace_text]
    obtain ⟨r, he, hr⟩ := (ih hw.2.1 ha depth (by simp [nesting] at hd; omega)).whole 0
      (by rw [hw.2.2]) rest hrest
    refine ⟨r, parseUnary_unary hs ?_ he, hr⟩
    obtain ⟨c, t, ht, hc, -⟩ := e.head_text hw.2.1
    rw [ht]
    simpa using hc
  | binary o l sp r ihl ihr =>
    intro depth hd
    obtain ⟨hsp, hwl, hwr, hll, hrl⟩ := hw
    obtain ⟨hapart, hal, har⟩ := ha
    rw [nesting] at hd
    obtain ⟨k, hk, -⟩ := o.level_pos
    refine .of_starts hk fun rest hrest => ?_
    have hlong := not_longer_text hwr hapart rest
    -- the operator and its right operand follow the left operand
    have hs : skipSpace (sp ++ (o.text ++ (r.text ++ rest))) = o.text ++ (r.text ++ rest) := by
      rw [skipSpace_append hsp, o.skipSpace_text]
    obtain ⟨r1, hp, hr1⟩ := (ihl hwl hal depth (by omega)).starts k (by omega)
      (sp ++ (o.text ++ (r.text ++ rest))) (.inr ⟨o, _, by omega, hs, hlong⟩)
    have hop : firstOf (levelOps (k + 1)) r1 = (some o, r.text ++ rest) := by
      rw [← hk]
      exact firstOf_of_some (by rw [hr1, hs]; exact firstRest_own hlong)
    obtain ⟨r2, hq, hr2⟩ := (ihr hwr har depth (by omega)).whole k (by omega) rest hrest
    refine ⟨r2, ?_, hr2⟩
    have hshr := parseUpTo_shrinks (V := treeValues) (parse_shrinks treeValues depth).1 k
    have hlen : r2.length < r1.length :=
      Nat.lt_of_le_of_lt (hshr _ _ _ hq) ((levelOps_consumes (k + 1)).some _ _ _ hop)
    have htext : (binary o l sp r).text ++ rest = l.text ++ (sp ++ (o.text ++ (r.text ++ rest))) := by
      simp [text]
    rw [htext, hp, chain_some hop hq rfl]
    exact chain_fuel hshr (levelOps_consumes (k + 1)) _ _ _ _ hlen (Nat.lt_succ_self _)

lemma Written.tree_text {w : Written} (hw : w.Wf) (ha : w.Apart) (hn : w.nesting < depthLimit)
    {sp : Text} (hsp : Spaces sp) : DebugExpr.tree (w.text ++ sp) = .ok w.tree := by
  have hend : skipSpace sp = [] := by
    have h := skipSpace_append (s := []) hsp
    rwa [List.append_nil] at h
  obtain ⟨r, hp, hr⟩ := (w.reads hw ha 31 (by rw [depthLimit] at hn; omega)).whole 10 w.level_le
    sp (.inl (.inl hend))
  have hdone : ¬ skipSpace r ≠ [] := by
    rw [hr, hend]
    simp
  have hexpr : parseExpr treeValues depthLimit (w.text ++ sp) = .ok (w.tree, r) := by
    rw [depthLimit, parseExpr_succ, hp]
  simp only [DebugExpr.tree, run, hexpr, bind, Except.bind, if_neg hdone]

/-! ## The value of a printed expression -/

/-- **A text means a tree** on a machine: evaluating it gives the tree's value, and fails exactly
where the tree does. -/
def Means (text : Text) (e : Expr) (env : DebugExprEnv) : Prop :=
  (¬ e.Fails env →
    ∃ v, debugexprEval (some text) (some env) = .ok v ∧ v.toNat = e.denote env) ∧
  ((∃ err, debugexprEval (some text) (some env) = .error err) ↔ e.Fails env)

/-- **Breakpoint expressions mean what their C spelling means**, as long as a space keeps a bitwise
and apart from the `&` of a number. -/
theorem means_printed (w : Written) (sp : Text) (env : DebugExprEnv) (hw : w.Wf) (ha : w.Apart)
    (hn : w.nesting < depthLimit) (hsp : Spaces sp) : Means (w.text ++ sp) w.tree env := by
  have hrun : debugexprEval (some (w.text ++ sp)) (some env) =
      w.tree.eval (machineValues (some env)) :=
    (run_tree (machineValues (some env)) (w.text ++ sp)).1 w.tree (w.tree_text hw ha hn hsp)
  rw [Means, hrun]
  refine ⟨Expr.eval_of_not_fails, fun ⟨err, herr⟩ => ?_, fun hf => ?_⟩
  · by_contra hnf
    obtain ⟨v, hv, -⟩ := Expr.eval_of_not_fails hnf
    rw [hv] at herr
    cases herr
  · obtain ⟨err, herr, -⟩ := Expr.eval_of_fails hf
    exact ⟨err, herr⟩

def plainEnv : DebugExprEnv where
  readReg reg := .ofNat reg.val
  readCpsr := 0x60000010
  readMem addr _ := if addr < 0x1000 then some (addr + 1) else none

attribute [local instance] registers_ne_zero

/-- `[r1 + &10]:2 & 0xFF`. -/
def maskedRead : Written :=
  .binary .bitAnd
    (.memory [] (.binary .add (.name [] ['r', '1'] (.register 1)) [' ']
      (.number [' '] ⟨.riscos, ['1', '0']⟩)) [] (some ([], [], ⟨.decimal, ['2']⟩)))
    [' '] (.number [' '] ⟨.hex 'x', ['F', 'F']⟩)

lemma maskedRead_wf : maskedRead.Wf := by
  refine ⟨?_, ⟨?_, ?_, ⟨?_, ⟨?_, ?_⟩, ⟨?_, ?_⟩, ?_, ?_⟩, ?_⟩, ⟨?_, ?_⟩, ?_, ?_⟩
  all_goals try simp [Spaces, isSpace]
  all_goals try decide
  · exact ⟨by decide, by decide, by simp⟩
  · rintro sp sp' n h
    simp only [Option.some.injEq, Prod.mk.injEq] at h
    obtain ⟨rfl, rfl, rfl⟩ := h
    exact ⟨by simp [Spaces], by simp [Spaces], ⟨by decide, by decide, by simp⟩, by decide⟩
  · exact ⟨by decide, by decide, by simp⟩

theorem means_maskedRead : Means (maskedRead.text ++ [' ']) maskedRead.tree plainEnv :=
  means_printed maskedRead [' '] plainEnv maskedRead_wf (by simp [maskedRead, Written.Apart,
    Written.text]) (by decide) (by simp [Spaces, isSpace])

/-- `1&&10`, as a bitwise and of 1 and 16. -/
def closeAnd : Written :=
  .binary .bitAnd (.number [] ⟨.decimal, ['1']⟩) [] (.number [] ⟨.riscos, ['1', '0']⟩)

theorem close_and_is_logical :
    ¬ ∀ (w : Written) (sp : Text) (env : DebugExprEnv), w.Wf → w.nesting < depthLimit → Spaces sp →
      Means (w.text ++ sp) w.tree env := by
  intro h
  have hm := h closeAnd [] plainEnv
    ⟨by simp [Spaces], ⟨by simp [Spaces], by decide, by decide, by simp⟩,
      ⟨by simp [Spaces], by decide, by decide, by simp⟩, by decide, by decide⟩
    (by decide) (by simp [Spaces])
  have hnf : ¬ closeAnd.tree.Fails plainEnv := by
    rintro ⟨t, ht, hf⟩
    simp only [closeAnd, Written.tree, Expr.subtrees, List.mem_cons, List.mem_append,
      List.not_mem_nil, or_false] at ht
    rcases ht with rfl | rfl | rfl <;> exact hf
  obtain ⟨v, hv, hval⟩ := hm.1 hnf
  have h1 : debugexprEval (some (closeAnd.text ++ [])) (some plainEnv) = .ok 1 := by decide
  rw [h1] at hv
  cases hv
  revert hval
  decide

end RpcEmu.DebugExpr
