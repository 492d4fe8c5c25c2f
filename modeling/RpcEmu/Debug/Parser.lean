import RpcEmu.Lib.Chain
import RpcEmu.Debug.Expr

/-!
# The expression parser

The recursive descent of `debugexpr.c`, from `skip_space` to `debugexpr_check`.  A text is a list of
characters, without the terminating NUL.

* **What is read** is the code's, function by function.  `accept` leaves the spaces before a missing
  token skipped, and `accept_exact` puts them back.  The nesting counter is passed down as the levels
  that are left: it is raised and lowered around each call, so at every call it is the depth of
  `parse_unary` and `parse_expr` above it.
* **What is computed** is a parameter, a record of `Values`.  The code is the instance
  `machineValues`, which computes words as it reads; `treeValues` builds the tree that the same text
  stands for.
* `parseExpr_computes` says that every instance computes what it makes of the tree.
-/

namespace RpcEmu.DebugExpr

open Chains

/-- `DEPTH_LIMIT`. -/
def depthLimit : Nat := 32

abbrev Text := List Char

instance (t : Text) (P : Char → Prop) [DecidablePred P] : Decidable (∀ c ∈ t, P c) :=
  List.decidableBAll P t

abbrev Reads (α : Type) := Parse Error Char α

/-! ## Tokens -/

def isSpace (c : Char) : Bool := c == ' ' || c == '\t'

def skipSpace (s : Text) : Text := s.dropWhile isSpace

/-- Consume `text` if it is next, after whitespace. -/
def accept (text s : Text) : Bool × Text :=
  let p := skipSpace s
  if text.isPrefixOf p then (true, p.drop text.length) else (false, p)

/-- Consume `text` only when it is not the beginning of a longer operator. -/
def acceptExact (text notFollowedBy s : Text) : Bool × Text :=
  let p := skipSpace s
  if text.isPrefixOf p then
    if ((p.drop text.length).head?.any fun c => notFollowedBy.contains c) then (false, s)
    else (true, p.drop text.length)
  else (false, s)

/-- An operator as the code looks for it: by `accept`, or by `accept_exact` with what must not
follow. -/
structure Token (ω : Type) where
  op : ω
  text : Text
  notFollowedBy : Option Text

def Token.take {ω : Type} (t : Token ω) (s : Text) : Bool × Text :=
  match t.notFollowedBy with
  | none => accept t.text s
  | some notFollowedBy => acceptExact t.text notFollowedBy s

def firstOf {ω : Type} : List (Token ω) → Text → Option ω × Text
  | [], s => (none, s)
  | t :: ops, s =>
    match t.take s with
    | (true, s') => (some t.op, s')
    | (false, s') => firstOf ops s'

def isDigit (c : Char) : Bool := '0' ≤ c && c ≤ '9'

def isIdent (c : Char) : Bool :=
  ('a' ≤ c && c ≤ 'z') || ('A' ≤ c && c ≤ 'Z') || isDigit c || c == '_'

def lower (c : Char) : Char :=
  if 'A' ≤ c ∧ c ≤ 'Z' then Char.ofNat (c.toNat - 'A'.toNat + 'a'.toNat) else c

/-! ## Operands -/

def digitOf (base : UInt32) (c : Char) : Option UInt32 :=
  let c := lower c
  if isDigit c then some (.ofNat (c.toNat - '0'.toNat))
  else if base = 16 ∧ 'a' ≤ c ∧ c ≤ 'f' then some (.ofNat (c.toNat - 'a'.toNat + 10))
  else none

def parseDigits (base : UInt32) : UInt32 → Nat → Text → UInt32 × Nat × Text
  | value, digits, [] => (value, digits, [])
  | value, digits, c :: s =>
    match digitOf base c with
    | some digit => parseDigits base (value * base + digit) (digits + 1) s
    | none => (value, digits, c :: s)

def numberBase : Text → UInt32 × Text
  | '&' :: s => (16, s)
  | '0' :: x :: s => if lower x = 'x' then (16, s) else (10, '0' :: x :: s)
  | s => (10, s)

/-- A number: `0x` or `&` and hexadecimal digits, or decimal digits. -/
def parseNumber (s : Text) : Except Error (UInt32 × Text) :=
  let (base, s) := numberBase s
  let (value, digits, rest) := parseDigits base 0 0 s
  if digits = 0 then .error .expectedNumber else .ok (value, rest)

/-- The end of a memory reference: its `]`, and the access size if one is given. -/
def accessSize (s : Text) : Except Error (UInt32 × Text) :=
  match accept [']'] s with
  | (false, _) => .error .expectedBracket
  | (true, s) =>
    match accept [':'] s with
    | (false, s) => .ok (4, s)
    | (true, s) => do
      let (size, s) ← parseNumber (skipSpace s)
      if size ≠ 1 ∧ size ≠ 2 ∧ size ≠ 4 then .error .accessSize else .ok (size, s)

/-- The `)` of a group. -/
def closeParen (s : Text) : Except Error (Unit × Text) :=
  match accept [')'] s with
  | (true, s) => .ok ((), s)
  | (false, _) => .error .expectedParen

/-- The digits of `r<n>`. -/
def registerNumber : Nat → List Char → Except Error Nat
  | n, [] => .ok n
  | n, c :: s =>
    if isDigit c then registerNumber (n * 10 + (c.toNat - '0'.toNat)) s else .error .unknownName

section Parser

variable {α : Type} (V : Values α)

def namedValue (name : List Char) : Except Error α :=
  if name = ['p', 'c'] then .ok (V.register 15)
  else if name = ['s', 'p'] then .ok (V.register 13)
  else if name = ['l', 'r'] then .ok (V.register 14)
  else if name.head? = some 'r' ∧ 2 ≤ name.length ∧ name.length ≤ 3 then do
    let n ← registerNumber 0 name.tail
    if h : n < 16 then .ok (V.register ⟨n, h⟩) else .error .noSuchRegister
  else if name = ['c', 'p', 's', 'r'] then .ok V.cpsr
  else if name = ['n'] then .ok (V.flag .n)
  else if name = ['z'] then .ok (V.flag .z)
  else if name = ['c'] then .ok (V.flag .c)
  else if name = ['v'] then .ok (V.flag .v)
  else .error .unknownName

def parseIdentifier : Reads α := fun s =>
  let name := (s.take 7).takeWhile isIdent
  let rest := s.drop name.length
  if name = [] then .error .expectedValue
  else if rest.head?.any isIdent then .error .unknownName
  else do
    let v ← namedValue V (name.map lower)
    .ok (v, rest)

/-- A memory reference, after its `[`. -/
def parseMemory (expr : Reads α) : Reads α :=
  followed expr accessSize fun size addr => V.memory addr size

def parsePrimary (expr : Reads α) : Reads α := fun s =>
  let s := skipSpace s
  if s = [] then .error .endsEarly
  else
    match accept ['('] s with
    | (true, s) => followed expr closeParen (fun _ v => .ok v) s
    | (false, s) =>
      match accept ['['] s with
      | (true, s) => parseMemory V expr s
      | (false, s) =>
        if s.head?.any fun c => isDigit c || c == '&' then do
          let (v, s) ← parseNumber s
          .ok (V.number v, s)
        else parseIdentifier V s

/-! ## Operators -/

def unaryOps : List (Token UnOp) :=
  [⟨.not, ['!'], some ['=']⟩, ⟨.compl, ['~'], none⟩, ⟨.neg, ['-'], none⟩]

def levelOps : Nat → List (Token BinOp)
  | 1 => [⟨.mul, ['*'], none⟩, ⟨.div, ['/'], none⟩, ⟨.mod, ['%'], none⟩]
  | 2 => [⟨.add, ['+'], none⟩, ⟨.sub, ['-'], none⟩]
  | 3 => [⟨.shl, ['<', '<'], none⟩, ⟨.shr, ['>', '>'], none⟩]
  | 4 => [⟨.le, ['<', '='], none⟩, ⟨.ge, ['>', '='], none⟩,
      ⟨.lt, ['<'], some ['<', '=']⟩, ⟨.gt, ['>'], some ['>', '=']⟩]
  | 5 => [⟨.eq, ['=', '='], none⟩, ⟨.ne, ['!', '='], none⟩]
  | 6 => [⟨.bitAnd, ['&'], some ['&']⟩]
  | 7 => [⟨.bitXor, ['^'], none⟩]
  | 8 => [⟨.bitOr, ['|'], some ['|']⟩]
  | 9 => [⟨.and, ['&', '&'], none⟩]
  | 10 => [⟨.or, ['|', '|'], none⟩]
  | _ => []

def parseLevel (level : Nat) (sub : Reads α) : Reads α :=
  chainl sub (firstOf (levelOps level)) V.binary

def parseMul (unary : Reads α) : Reads α := parseLevel V 1 unary

def parseAdd (unary : Reads α) : Reads α := parseLevel V 2 (parseMul V unary)

def parseShift (unary : Reads α) : Reads α := parseLevel V 3 (parseAdd V unary)

def parseRelational (unary : Reads α) : Reads α := parseLevel V 4 (parseShift V unary)

def parseEquality (unary : Reads α) : Reads α := parseLevel V 5 (parseRelational V unary)

def parseBitand (unary : Reads α) : Reads α := parseLevel V 6 (parseEquality V unary)

def parseBitxor (unary : Reads α) : Reads α := parseLevel V 7 (parseBitand V unary)

def parseBitor (unary : Reads α) : Reads α := parseLevel V 8 (parseBitxor V unary)

def parseAnd (unary : Reads α) : Reads α := parseLevel V 9 (parseBitor V unary)

mutual

def parseUnary : Nat → Reads α
  | 0, _ => .error .tooDeep
  | depth + 1, s =>
    match firstOf unaryOps (skipSpace s) with
    | (some o, s) => do
      let (v, s) ← parseUnary depth s
      .ok (V.unary o v, s)
    | (none, s) => parsePrimary V (parseExpr depth) s

def parseExpr : Nat → Reads α
  | 0, _ => .error .tooDeep
  | depth + 1, s => parseLevel V 10 (parseAnd V (parseUnary depth)) s

end

def run (expr : Option Text) : Except Error α :=
  match expr with
  | none => .error .noExpression
  | some text => do
    let (value, rest) ← parseExpr V depthLimit text
    if skipSpace rest ≠ [] then .error .unexpectedText else .ok value

end Parser

/-! ## One text, one tree -/

section Computes

variable {α : Type} {V : Values α}

lemma namedValue_eq (name : List Char) :
    namedValue V name = (namedValue treeValues name).bind (Expr.eval V) := by
  have hbind {p : Prop} [Decidable p] (a b : Except Error Expr) :
      (if p then a else b).bind (Expr.eval V) = if p then a.bind (Expr.eval V) else b.bind (Expr.eval V) :=
    apply_ite (Except.bind · (Expr.eval V)) p a b
  unfold namedValue
  iterate 3
    rw [hbind]
    refine ite_congr rfl (fun _ => rfl) fun _ => ?_
  rw [hbind]
  refine ite_congr rfl (fun _ => ?_) fun _ => ?_
  · cases registerNumber 0 name.tail with
    | error e => rfl
    | ok n =>
      simp only [bind, Except.bind]
      split_ifs <;> rfl
  · iterate 5
      rw [hbind]
      refine ite_congr rfl (fun _ => rfl) fun _ => ?_
    rfl

lemma parseIdentifier_computes :
    Computes (Expr.eval V) (parseIdentifier treeValues) (parseIdentifier V) := by
  intro s
  simp only [parseIdentifier]
  split_ifs with hn hi
  · exact ⟨_, rfl⟩
  · exact ⟨_, rfl⟩
  · have hv := namedValue_eq (V := V) (((s.take 7).takeWhile isIdent).map lower)
    cases ht : namedValue treeValues (((s.take 7).takeWhile isIdent).map lower) with
    | error e =>
      rw [ht] at hv
      exact ⟨e, by rw [hv]; rfl⟩
    | ok e =>
      rw [ht] at hv
      show (namedValue V _).bind _ = (Expr.eval V e).map _
      rw [hv]
      show (Expr.eval V e).bind _ = _
      cases Expr.eval V e <;> rfl

variable {pt : Reads Expr} {pv : Reads α}

lemma parseMemory_computes (h : Computes (Expr.eval V) pt pv) :
    Computes (Expr.eval V) (parseMemory treeValues pt) (parseMemory V pv) :=
  followed_computes (fun _ _ => rfl) h

lemma closeParen_computes (h : Computes (Expr.eval V) pt pv) :
    Computes (Expr.eval V) (followed pt closeParen fun _ v => .ok v)
      (followed pv closeParen fun _ v => .ok v) :=
  followed_computes (fun _ a => by cases Expr.eval V a <;> rfl) h

lemma parsePrimary_computes (h : Computes (Expr.eval V) pt pv) :
    Computes (Expr.eval V) (parsePrimary treeValues pt) (parsePrimary V pv) := by
  intro s
  simp only [parsePrimary]
  split_ifs with he
  · exact ⟨_, rfl⟩
  · cases accept ['('] (skipSpace s) with
    | mk b s1 =>
      cases b with
      | true => exact closeParen_computes h s1
      | false =>
        simp only []
        cases accept ['['] s1 with
        | mk b s2 =>
          cases b with
          | true => exact parseMemory_computes h s2
          | false =>
            simp only []
            split_ifs
            · cases hn : parseNumber s2 with
              | error e => exact ⟨e, rfl⟩
              | ok out => rfl
            · exact parseIdentifier_computes s2

lemma parseLevel_computes (level : Nat) (h : Computes (Expr.eval V) pt pv) :
    Computes (Expr.eval V) (parseLevel treeValues level pt) (parseLevel V level pv) :=
  chainl_computes (fun _ _ _ => rfl) h

lemma parseAnd_computes (h : Computes (Expr.eval V) pt pv) :
    Computes (Expr.eval V) (parseAnd treeValues pt) (parseAnd V pv) := by
  have h3 := parseLevel_computes 3 (parseLevel_computes 2 (parseLevel_computes 1 h))
  have h6 := parseLevel_computes 6 (parseLevel_computes 5 (parseLevel_computes 4 h3))
  exact parseLevel_computes 9 (parseLevel_computes 8 (parseLevel_computes 7 h6))

/-- **Every way of computing reads the same tree**, at every depth. -/
theorem parse_computes (V : Values α) : ∀ depth : Nat,
    Computes (Expr.eval V) (parseUnary treeValues depth) (parseUnary V depth) ∧
      Computes (Expr.eval V) (parseExpr treeValues depth) (parseExpr V depth) := by
  intro depth
  induction depth with
  | zero => exact ⟨fun s => ⟨.tooDeep, by rw [parseUnary]⟩, fun s => ⟨.tooDeep, by rw [parseExpr]⟩⟩
  | succ depth ih =>
    obtain ⟨hu, he⟩ := ih
    refine ⟨fun s => ?_, fun s => ?_⟩
    · rw [parseUnary, parseUnary]
      cases firstOf unaryOps (skipSpace s) with
      | mk o s1 =>
        cases o with
        | none => exact parsePrimary_computes he s1
        | some o =>
          simp only []
          cases hp : parseUnary treeValues depth s1 with
          | error e =>
            obtain ⟨e', hq⟩ := hu.of_error hp
            exact ⟨e', by rw [hq]; rfl⟩
          | ok out =>
            simp only [hu.of_ok hp]
            show _ = (Expr.eval V (.unary o out.1)).map _
            rw [Expr.eval]
            cases Expr.eval V out.1 <;> rfl
    · rw [parseExpr, parseExpr]
      exact parseLevel_computes 10 (parseAnd_computes hu) s

end Computes

def tree (text : Text) : Except Error Expr := run treeValues (some text)

/-- **Evaluating a text** is evaluating its tree; a text that has none is refused whatever is
computed. -/
theorem run_tree {α : Type} (V : Values α) (text : Text) :
    (∀ e, tree text = .ok e → run V (some text) = e.eval V) ∧
      ∀ err, tree text = .error err → ∃ err', run V (some text) = .error err' := by
  have h := (parse_computes V depthLimit).2
  simp only [tree, run]
  cases hp : parseExpr treeValues depthLimit text with
  | error e =>
    obtain ⟨e', hq⟩ := h.of_error hp
    rw [hq]
    refine ⟨fun e ht => ?_, fun _ _ => ⟨e', rfl⟩⟩
    cases ht
  | ok out =>
    rw [h.of_ok hp]
    simp only [bind, Except.bind]
    split_ifs with hr
    · refine ⟨fun e ht => ?_, fun _ _ => ?_⟩
      · cases ht
      · cases Expr.eval V out.1 with
        | error e => exact ⟨e, rfl⟩
        | ok v => exact ⟨.unexpectedText, by simp [Except.map, hr]⟩
    · refine ⟨fun e ht => ?_, fun err ht => ?_⟩
      · cases ht
        cases Expr.eval V out.1 with
        | error e => rfl
        | ok v => simp [Except.map, hr]
      · cases ht

def debugexprEval (expr : Option Text) (env : Option DebugExprEnv) : Except Error UInt32 :=
  match env with
  | none => .error .noEnvironment
  | some env => run (machineValues (some env)) expr

def debugexprCheck (expr : Option Text) : Except Error Unit :=
  (run (machineValues none) expr).map fun _ => ()

end RpcEmu.DebugExpr
