import RpcEmu.Serial.Carrier

/-!
# From the guest to the network

What the guest writes in data mode goes through a ring to the socket, with 255 doubled, the answers to options
between the bytes, and a `+` kept back while it may belong to an escape.

`connections` reads off the log what there was on each connection: the guest's bytes (less those of an escape, by
its guard times), what came in, and what went out.  `Clean` says what a connection ought to look like, and `Whole`
where everything is while it lasts.  A step keeps them where there is room for what it puts into the ring, and where
the ring is empty when there is a new connection (`Room`); the ring looks after neither.
-/

namespace RpcEmu.Serial

open CountedRing Telnet Runs

/-! ## Connections -/

inductive Key where
  | byte (now : Int) (b : UInt8)
  | enter (now : Int)
  deriving DecidableEq, Repr

def Key.time : Key → Int
  | byte now _ | enter now => now

def Key.byte? : Key → Option UInt8
  | byte _ b => some b
  | enter _ => none

structure Connection where
  keys : List Key
  received : List UInt8
  sent : List UInt8
  deriving DecidableEq, Repr

def Connection.data (c : Connection) : List UInt8 := (c.keys.filterMap Key.byte?).reverse

/-- Three times `+` with nothing for a second before it and nothing for a second after it are no data. -/
def escapeKeys (keys : List Key) (now : Int) : List Key :=
  match keys with
  | .byte t3 b3 :: .byte t2 b2 :: .byte t1 b1 :: rest =>
    if b1 = 0x2B ∧ b2 = 0x2B ∧ b3 = 0x2B ∧ (∀ k ∈ rest.head?, modemGuardMs ≤ t1 - k.time) ∧
        modemGuardMs ≤ now - t3 then rest
    else .byte t3 b3 :: .byte t2 b2 :: .byte t1 b1 :: rest
  | keys => keys

def Connection.note (c : Connection) : ModemEvent → Connection
  | .entered now => { c with keys := .enter now :: c.keys }
  | .typed now b => { c with keys := .byte now b :: c.keys }
  | .escaped now => { c with keys := escapeKeys c.keys now }
  | .received bs => { c with received := c.received ++ bs }
  | .sent bs => { c with sent := c.sent ++ bs }
  | _ => c

def noteConnection (cs : List Connection) : ModemEvent → List Connection
  | .opened => ⟨[], [], []⟩ :: cs
  | e => cs.modifyHead (Connection.note · e)

def connections (p : SerialPort) : List Connection := p.log.foldl noteConnection []

def answers (received : List UInt8) : List (UInt8 × UInt8) :=
  (optionsOf (decode .data received).2).filterMap fun o => telnetAnswer o.1 o.2

/-- **What went out** is the beginning of what the guest wrote and of the answers that were owed, neither of them
torn: it reads so, and it was written so. -/
structure Clean (c : Connection) : Prop where
  data : dataOf (decode .data c.sent).2 <+: c.data
  replies : optionsOf (decode .data c.sent).2 <+: answers c.received
  written : ∃ items, c.sent <+: encode items ∧ dataOf items <+: c.data ∧ optionsOf items <+: answers c.received

/-- **While it lasts** all of it has gone out, or is in the ring, or is a `+` kept back. -/
def Whole (m : ModemState) (c : Connection) : Prop :=
  ∃ items, c.sent ++ m.tx.contents modemRingSize = encode items ∧
    dataOf items ++ List.replicate m.plusCount 0x2B = c.data ∧ optionsOf items = answers c.received

/-! ## Room -/

def parserState (m : ModemState) : Telnet.State :=
  match m.tstate with
  | .data => .data
  | .iac => .iac
  | .opt => .verb m.toptCmd
  | .sb => .sub
  | .sbIac => .subIac

def answersFrom (m : ModemState) (bs : List UInt8) : List (UInt8 × UInt8) :=
  (optionsOf (decode (parserState m) bs).2).filterMap fun o => telnetAnswer o.1 o.2

/-- The byte ends a command that dials and connects. -/
def Opens (p : SerialPort) (data : UInt8) (host : WriteHost) : Prop :=
  match asked p data with
  | some (.dial number) => (dialTarget number).1 ≠ [] ∧ (dialled number host).isSome = true
  | _ => False

instance (p : SerialPort) (data : UInt8) (host : WriteHost) : Decidable (Opens p data host) := by
  unfold Opens
  split <;> infer_instance

/-- What is put into the ring for the network has room there, and the ring is empty when a number is called that
comes to a connection. -/
def Room (p : SerialPort) : PortStep → Prop
  | .write data host =>
    p.attached = true →
      (p.modem.state = .online → ¬Keeps p.modem data host.now →
        p.modem.tx.count + p.modem.plusCount + (Item.data data).encode.length ≤ modemRingSize) ∧
      (Opens p data host → p.modem.tx.count = 0)
  | .recv (.bytes bs) => Reads p.modem → p.modem.tx.count + 3 * (answersFrom p.modem bs).length ≤ modemRingSize
  | .escape now =>
    p.modem.state = .online → p.modem.plusCount < 3 → modemGuardMs ≤ now - p.modem.lastPlusMs →
      p.modem.tx.count + p.modem.plusCount ≤ modemRingSize
  | _ => True

instance (p : SerialPort) : (a : PortStep) → Decidable (Room p a)
  | .write data host => inferInstanceAs (Decidable (_ → _ ∧ (Opens p data host → _)))
  | .recv (.bytes _) => inferInstanceAs (Decidable (_ → _))
  | .escape _ => inferInstanceAs (Decidable (_ → _ → _ → _))
  | .recv .interrupted | .recv .wouldBlock | .recv .failed => inferInstanceAs (Decidable True)
  | .ctrl _ | .busReset | .connect _ _ | .send _ | .deliver | .apply _ | .machineReset _ =>
    inferInstanceAs (Decidable True)

/-! ## The rings -/

section Puts

def puts (r : CountedRing.Ring UInt8) (bs : List UInt8) : CountedRing.Ring UInt8 := bs.foldl ringPut r

variable {r : CountedRing.Ring UInt8}

lemma puts_append (r : CountedRing.Ring UInt8) (as bs : List UInt8) : puts r (as ++ bs) = puts (puts r as) bs :=
  List.foldl_append

lemma good_puts (h : Good modemRingSize r) (bs : List UInt8) : Good modemRingSize (puts r bs) := by
  induction bs generalizing r with
  | nil => exact h
  | cons b bs ih =>
    refine ih (r := ringPut r b) ?_
    unfold ringPut
    split_ifs with hfull
    · exact h
    · exact h.push (not_le.mp hfull) b

lemma contents_puts_take (h : Good modemRingSize r) (bs : List UInt8) :
    (puts r bs).contents modemRingSize = r.contents modemRingSize ++ bs.take (modemRingSize - r.count) := by
  induction bs generalizing r with
  | nil => simp [puts]
  | cons b bs ih =>
    by_cases hfull : modemRingSize ≤ r.count
    · have hone : ringPut r b = r := if_pos hfull
      have hrest := ih h
      rw [show modemRingSize - r.count = 0 by omega, List.take_zero] at hrest ⊢
      change (puts (ringPut r b) bs).contents modemRingSize = _
      rw [hone, hrest]
    · have hone : ringPut r b = r.push modemRingSize b := if_neg hfull
      have hroom : r.count < modemRingSize := not_le.mp hfull
      have hcount : modemRingSize - r.count = modemRingSize - (r.count + 1) + 1 := by omega
      change (puts (ringPut r b) bs).contents modemRingSize = _
      rw [hone, ih (h.push hroom b), contents_push h hroom b, hcount, List.take_succ_cons, List.append_assoc]
      rfl

/-- **With room for them all** they are at the end. -/
lemma contents_puts (h : Good modemRingSize r) {bs : List UInt8} (hroom : r.count + bs.length ≤ modemRingSize) :
    (puts r bs).contents modemRingSize = r.contents modemRingSize ++ bs := by
  rw [contents_puts_take h, List.take_of_length_le (by omega)]

variable {m : ModemState}

lemma toSocket_eq (htelnet : m.telnet = true) (b : UInt8) :
    modemToSocket m b = { m with tx := puts m.tx (Item.data b).encode } := by
  unfold modemToSocket
  by_cases hb : b = telIac <;> simp [htelnet, hb, Item.encode, puts, modemTxPut]

lemma toSockets_eq (htelnet : m.telnet = true) (bs : List UInt8) :
    bs.foldl modemToSocket m = { m with tx := puts m.tx (encode (bs.map .data)) } := by
  induction bs generalizing m with
  | nil => rfl
  | cons b bs ih =>
    have hsplit : encode ((b :: bs).map .data) = (Item.data b).encode ++ encode (bs.map .data) := rfl
    rw [List.foldl_cons, toSocket_eq htelnet, ih (by exact htelnet), hsplit, puts_append]

lemma encode_plus (n : Nat) : encode ((List.replicate n 0x2B).map .data) = List.replicate n 0x2B := by
  induction n with
  | zero => rfl
  | succ n ih =>
    have hsplit : encode ((List.replicate (n + 1) 0x2B).map .data) =
        0x2B :: encode ((List.replicate n 0x2B).map .data) := rfl
    rw [hsplit, ih]
    rfl

lemma flushPlus_eq (htelnet : m.telnet = true) :
    flushPlus m = { m with tx := puts m.tx (List.replicate m.plusCount 0x2B), plusCount := 0 } := by
  unfold flushPlus
  rw [toSockets_eq htelnet, encode_plus]

lemma dataTxByte_eq (htelnet : m.telnet = true) {b : UInt8} {now : Int} (h : ¬Keeps m b now) :
    modemDataTxByte m b now =
      { m with
        tx := puts m.tx (List.replicate m.plusCount 0x2B ++ (Item.data b).encode), plusCount := 0,
        lastTxMs := now } := by
  unfold modemDataTxByte
  rw [if_neg h, flushPlus_eq htelnet, toSocket_eq (by exact htelnet), puts_append]

def takeItem (m : ModemState) : Item → ModemState
  | .data b => modemRxPut m b
  | .option cmd opt =>
    match telnetAnswer cmd opt with
    | some (cmd, opt) => modemSendTelnet m cmd opt
    | none => m

lemma takeItems_eq (items : List Item) :
    items.foldl takeItem m =
      { m with
        rx := puts m.rx (dataOf items)
        tx := puts m.tx
          (encode (((optionsOf items).filterMap fun o => telnetAnswer o.1 o.2).map fun o => .option o.1 o.2)) } := by
  induction items generalizing m with
  | nil => rfl
  | cons i items ih =>
    rw [List.foldl_cons, ih]
    cases i with
    | data b => rfl
    | option cmd opt =>
      cases hans : telnetAnswer cmd opt with
      | none => simp [takeItem, hans]
      | some a => simp [takeItem, hans, encode, Item.encode, modemSendTelnet, modemTxPut, puts]

/-- **The parser is telnet's**: the state that it is in after a byte, and what it makes of it. -/
lemma telnetByte_eq (htelnet : m.telnet = true) (b : UInt8) :
    ∃ t c, modemTelnetByte m b = { (next (parserState m) b).2.foldl takeItem m with tstate := t, toptCmd := c } ∧
      parserState { m with tstate := t, toptCmd := c } = (next (parserState m) b).1 := by
  have hbyte : modemTelnetByte m b = _ := if_neg (not_not.mpr htelnet)
  rw [hbyte]
  cases ht : m.tstate with
  | data =>
    by_cases hb : b = telIac
    · exact ⟨.iac, m.toptCmd, by simp [parserState, ht, next, hb], by simp [parserState, ht, next, hb]⟩
    · refine ⟨.data, m.toptCmd, ?_, by simp [parserState, ht, next, hb]⟩
      simp [parserState, ht, next, hb, takeItem, modemRxPut]
  | iac =>
    by_cases hb : b = telIac
    · refine ⟨.data, m.toptCmd, ?_, by simp [parserState, ht, next, hb]⟩
      simp [parserState, ht, next, hb, takeItem, modemRxPut]
    by_cases hverb : isVerb b = true
    · have hverb' : b = telWill ∨ b = telWont ∨ b = telDo ∨ b = telDont := by
        simpa [isVerb, or_assoc] using hverb
      exact ⟨.opt, b, by simp [parserState, ht, next, hb, hverb, hverb'], by simp [parserState, ht, next, hb, hverb]⟩
    have hverb' : ¬(b = telWill ∨ b = telWont ∨ b = telDo ∨ b = telDont) := by
      simpa [isVerb, or_assoc] using hverb
    by_cases hsb : b = telSb
    · have hnext : next (parserState m) b = (.sub, []) := by
        simp only [parserState, ht, next, if_neg hb, if_neg hverb, if_pos hsb]
      refine ⟨.sb, m.toptCmd, ?_, by rw [hnext]; rfl⟩
      simp only [if_neg hb, if_neg hverb', if_pos hsb, hnext, List.foldl_nil]
    · have hnext : next (parserState m) b = (.data, []) := by
        simp only [parserState, ht, next, if_neg hb, if_neg hverb, if_neg hsb]
      refine ⟨.data, m.toptCmd, ?_, by rw [hnext]; rfl⟩
      simp only [if_neg hb, if_neg hverb', if_neg hsb, hnext, List.foldl_nil]
  | opt =>
    refine ⟨.data, m.toptCmd, ?_, by simp [parserState, ht, next]⟩
    cases hans : telnetAnswer m.toptCmd b <;>
      simp [parserState, ht, next, takeItem, hans, modemSendTelnet, modemTxPut]
  | sb =>
    by_cases hb : b = telIac
    · exact ⟨.sbIac, m.toptCmd, by simp [parserState, ht, next, hb], by simp [parserState, ht, next, hb]⟩
    · have hsame : { m with tstate := .sb, toptCmd := m.toptCmd } = m := by rw [← ht]
      refine ⟨.sb, m.toptCmd, ?_, by simp [parserState, ht, next, hb]⟩
      simp only [parserState, ht, next, if_neg hb, List.foldl_nil, hsame]
  | sbIac =>
    by_cases hb : b = telSe
    · exact ⟨.data, m.toptCmd, by simp [parserState, ht, next, hb], by simp [parserState, ht, next, hb]⟩
    · exact ⟨.sb, m.toptCmd, by simp [parserState, ht, next, hb], by simp [parserState, ht, next, hb]⟩

/-- **Some bytes of the stream**: their data goes to the guest, and the answers to the network. -/
lemma telnetBytes_eq (htelnet : m.telnet = true) (bs : List UInt8) :
    ∃ t c, bs.foldl modemTelnetByte m =
        { m with
          rx := puts m.rx (dataOf (decode (parserState m) bs).2)
          tx := puts m.tx (encode ((answersFrom m bs).map fun o => .option o.1 o.2))
          tstate := t
          toptCmd := c } ∧
      parserState { m with tstate := t, toptCmd := c } = (decode (parserState m) bs).1 := by
  induction bs generalizing m with
  | nil => exact ⟨m.tstate, m.toptCmd, rfl, rfl⟩
  | cons b bs ih =>
    obtain ⟨t, c, heq, hparser⟩ := telnetByte_eq htelnet b
    rw [takeItems_eq] at heq
    obtain ⟨t', c', heq', hparser'⟩ := ih (m := modemTelnetByte m b) (by rw [heq]; exact htelnet)
    have hparser : parserState (modemTelnetByte m b) = (next (parserState m) b).1 := by
      rw [heq]
      exact hparser
    refine ⟨t', c', ?_, ?_⟩
    · rw [List.foldl_cons, heq']
      simp only [answersFrom, hparser, decode, dataOf_append, optionsOf_append, List.filterMap_append,
        List.map_append, encode_append, puts_append]
      rw [heq]
    · rw [show (decode (parserState m) (b :: bs)).1 = (decode (next (parserState m) b).1 bs).1 from rfl, ← hparser,
        ← hparser', heq]
      rfl

end Puts

/-! ## What a connection is made of -/

structure Wire where
  tx : CountedRing.Ring UInt8
  plusCount : Nat
  lastTxMs : Int
  lastPlusMs : Int
  parser : Telnet.State

def wire (m : ModemState) : Wire := ⟨m.tx, m.plusCount, m.lastTxMs, m.lastPlusMs, parserState m⟩

def keyBytes (keys : List Key) : List UInt8 := (keys.filterMap Key.byte?).reverse

/-- The items that have been written, the times of the `+` that are kept back, and the keys before them. -/
structure Flow (w : Wire) (c : Connection) (items : List Item) (held : List Int) (rest : List Key) : Prop where
  good : ∀ i ∈ items, i.Good
  written : c.sent ++ w.tx.contents modemRingSize = encode items
  keys : c.keys = held.map (Key.byte · 0x2B) ++ rest
  plus : held.length = w.plusCount
  data : dataOf items = keyBytes rest
  replies : optionsOf items = answers c.received
  quiet : ∀ k ∈ rest.head?, k.time ≤ w.lastTxMs
  guard : ∀ t ∈ held.getLast?, modemGuardMs ≤ t - w.lastTxMs
  last : ∀ t ∈ held.head?, t = w.lastPlusMs
  parser : w.parser = (decode .data c.received).1

/-- What the guest wrote is sent, held or in the ring. -/
def Flowing (w : Wire) (c : Connection) : Prop := ∃ items held rest, Flow w c items held rest

section Flows

variable {w : Wire} {c : Connection} {items : List Item} {held : List Int} {rest : List Key}

lemma keyBytes_append (a b : List Key) : keyBytes (a ++ b) = keyBytes b ++ keyBytes a := by simp [keyBytes]

lemma keyBytes_held (held : List Int) : keyBytes (held.map (Key.byte · 0x2B)) = List.replicate held.length 0x2B := by
  rw [keyBytes, List.filterMap_map]
  induction held with
  | nil => rfl
  | cons t held ih =>
    simp only [List.filterMap_cons, Function.comp_apply, Key.byte?, List.reverse_cons, List.length_cons,
      List.replicate_succ'] at ih ⊢
    rw [← ih]

lemma Flow.data_eq (h : Flow w c items held rest) :
    dataOf items ++ List.replicate w.plusCount 0x2B = c.data := by
  change _ = keyBytes c.keys
  rw [h.keys, keyBytes_append, keyBytes_held, h.plus, h.data]

lemma Flow.clean (h : Flow w c items held rest) : Clean c := by
  have hsent : c.sent <+: encode items := ⟨_, h.written⟩
  have hdecode := decode_prefix_encode h.good hsent
  have hdata : dataOf items <+: c.data := ⟨_, h.data_eq⟩
  exact
    { data := (dataOf_mono hdecode).trans hdata
      replies := h.replies ▸ optionsOf_mono hdecode
      written := ⟨items, hsent, hdata, h.replies ▸ List.prefix_rfl⟩ }

lemma Flow.flowing (h : Flow w c items held rest) : Flowing w c := ⟨items, held, rest, h⟩

lemma Flowing.clean (h : Flowing w c) : Clean c := by
  obtain ⟨items, held, rest, hflow⟩ := h
  exact hflow.clean

lemma flowing_fresh (htx : w.tx.count = 0) (hplus : w.plusCount = 0) (hparser : w.parser = .data) {keys : List Key}
    (hbytes : keyBytes keys = []) (hquiet : ∀ k ∈ keys.head?, k.time ≤ w.lastTxMs) : Flowing w ⟨keys, [], []⟩ := by
  have hempty : w.tx.contents modemRingSize = [] := List.eq_nil_of_length_eq_zero (by simp [htx])
  exact ⟨[], [], keys,
    { good := by simp
      written := by simp [hempty]
      keys := rfl
      plus := hplus.symm
      data := hbytes.symm
      replies := rfl
      quiet := hquiet
      guard := by simp
      last := by simp
      parser := hparser }⟩

lemma Flow.keep (h : Flow w c items held rest) {now : Int} (hguard : w.plusCount = 0 → modemGuardMs ≤ now - w.lastTxMs) :
    Flow { w with plusCount := w.plusCount + 1, lastPlusMs := now } { c with keys := .byte now 0x2B :: c.keys } items
      (now :: held) rest where
  good := h.good
  written := h.written
  keys := by rw [h.keys]; rfl
  plus := by rw [List.length_cons, h.plus]
  data := h.data
  replies := h.replies
  quiet := h.quiet
  guard := by
    cases held with
    | nil =>
      intro t ht
      rw [List.getLast?_singleton, Option.mem_some_iff] at ht
      exact ht ▸ hguard h.plus.symm
    | cons t ts => exact h.guard
  last := by simp
  parser := h.parser

lemma Flow.write (h : Flow w c items held rest) (hgood : Good modemRingSize w.tx) (bs : List UInt8) (keys : List Key)
    (last : Int)
    (hroom : w.tx.count + (List.replicate w.plusCount 0x2B ++ encode (bs.map .data)).length ≤ modemRingSize)
    (hkeys : keyBytes keys = bs) (hlast : ∀ k ∈ (keys ++ c.keys).head?, k.time ≤ last) :
    Flow { w with
        tx := puts w.tx (List.replicate w.plusCount 0x2B ++ encode (bs.map .data)), plusCount := 0,
        lastTxMs := last }
      { c with keys := keys ++ c.keys }
      (items ++ (List.replicate w.plusCount 0x2B).map .data ++ bs.map .data) [] (keys ++ c.keys) where
  good := by
    intro i hi
    simp only [List.mem_append, List.mem_map] at hi
    rcases hi with (hi | ⟨b, -, rfl⟩) | ⟨b, -, rfl⟩
    · exact h.good i hi
    · trivial
    · trivial
  written := by
    rw [contents_puts hgood hroom, encode_append, encode_append, encode_plus, ← h.written]
    simp
  keys := rfl
  plus := rfl
  data := by
    have hdata : keyBytes c.keys = dataOf items ++ List.replicate w.plusCount 0x2B := h.data_eq.symm
    rw [dataOf_append, dataOf_append, dataOf_map_data, dataOf_map_data, keyBytes_append, hkeys, hdata]
  replies := by
    rw [optionsOf_append, optionsOf_append, optionsOf_map_data, optionsOf_map_data, List.append_nil, List.append_nil]
    exact h.replies
  quiet := hlast
  guard := by simp
  last := by simp
  parser := h.parser

lemma Flow.escape (h : Flow w c items held rest) (hplus : w.plusCount = 3) {now : Int}
    (hnow : modemGuardMs ≤ now - w.lastPlusMs) :
    Flow { w with plusCount := 0 } { c with keys := escapeKeys c.keys now } items [] rest := by
  have hlen : held.length = 3 := h.plus.trans hplus
  obtain ⟨t3, t2, t1, rfl⟩ : ∃ t3 t2 t1, held = [t3, t2, t1] := by
    match held, hlen with
    | [t3, t2, t1], _ => exact ⟨t3, t2, t1, rfl⟩
  have hfirst : modemGuardMs ≤ t1 - w.lastTxMs := h.guard t1 rfl
  have hthird : t3 = w.lastPlusMs := h.last t3 rfl
  have hbefore : ∀ k ∈ rest.head?, modemGuardMs ≤ t1 - k.time := fun k hk => by
    have hk := h.quiet k hk
    omega
  have hkeys : escapeKeys c.keys now = rest := by
    rw [h.keys]
    exact if_pos ⟨rfl, rfl, rfl, hbefore, hthird ▸ hnow⟩
  exact
    { good := h.good
      written := h.written
      keys := hkeys
      plus := rfl
      data := h.data
      replies := h.replies
      quiet := h.quiet
      guard := by simp
      last := by simp
      parser := h.parser }

lemma Flow.send (h : Flow w c items held rest) {k : Nat} {bs : List UInt8}
    (hbs : bs = (w.tx.contents modemRingSize).take k) :
    Flow { w with tx := w.tx.advance modemRingSize k } { c with sent := c.sent ++ bs } items held rest where
  good := h.good
  written := by
    rw [contents_advance, hbs, List.append_assoc, List.take_append_drop]
    exact h.written
  keys := h.keys
  plus := h.plus
  data := h.data
  replies := h.replies
  quiet := h.quiet
  guard := h.guard
  last := h.last
  parser := h.parser

lemma answer_good {cmd opt : UInt8} {o : UInt8 × UInt8} (h : telnetAnswer cmd opt = some o) :
    (Item.option o.1 o.2).Good := by
  unfold telnetAnswer at h
  split_ifs at h <;> (cases h; rfl)

lemma Flow.receive (h : Flow w c items held rest) (hgood : Good modemRingSize w.tx) (bs : List UInt8)
    (as : List (UInt8 × UInt8))
    (has : as = (optionsOf (decode w.parser bs).2).filterMap fun o => telnetAnswer o.1 o.2)
    (hroom : w.tx.count + 3 * as.length ≤ modemRingSize) :
    Flow { w with
        tx := puts w.tx (encode (as.map fun o => .option o.1 o.2)), parser := (decode w.parser bs).1 }
      { c with received := c.received ++ bs } (items ++ as.map fun o => .option o.1 o.2) held rest where
  good := by
    intro i hi
    rw [List.mem_append, List.mem_map] at hi
    rcases hi with hi | ⟨o, ho, rfl⟩
    · exact h.good i hi
    · rw [has, List.mem_filterMap] at ho
      obtain ⟨a, -, ha⟩ := ho
      exact answer_good ha
  written := by
    have hlen : (encode (as.map fun o => .option o.1 o.2)).length = 3 * as.length := by
      simp [encode, List.length_flatMap, List.map_map, Function.comp_def, Item.encode, Nat.mul_comm]
    rw [contents_puts hgood (by rw [hlen]; exact hroom), encode_append, ← h.written, List.append_assoc]
  keys := h.keys
  plus := h.plus
  data := by rw [dataOf_append, dataOf_map_option, List.append_nil]; exact h.data
  replies := by
    rw [optionsOf_append, optionsOf_map_option, h.replies, has, h.parser, answers, answers, decode_append,
      optionsOf_append, List.filterMap_append]
  quiet := h.quiet
  guard := h.guard
  last := h.last
  parser := by rw [decode_append, ← h.parser]

lemma Flow.enter (h : Flow w c items held rest) (hplus : w.plusCount = 0) (now : Int) :
    Flow { w with lastTxMs := now } { c with keys := .enter now :: c.keys } items [] (.enter now :: c.keys) := by
  have hheld : held = [] := List.eq_nil_of_length_eq_zero (h.plus.trans hplus)
  subst hheld
  have hkeys : c.keys = rest := h.keys
  exact
    { good := h.good
      written := h.written
      keys := rfl
      plus := h.plus
      data := by rw [h.data, hkeys]; rfl
      replies := h.replies
      quiet := fun k hk => by
        rw [List.head?_cons, Option.mem_some_iff] at hk
        exact hk ▸ le_refl _
      guard := by simp
      last := by simp
      parser := h.parser }

end Flows

/-! ## What is kept -/

@[simp] lemma connections_emit (p : SerialPort) (e : ModemEvent) :
    connections (p.emit e) = noteConnection (connections p) e := by
  simp [connections, SerialPort.emit]

@[simp] lemma connections_mk (p : SerialPort) (m : ModemState) (b : Bool) :
    connections ⟨m, b, p.log⟩ = connections p := rfl

/-- Each connection has had what was written to it. -/
structure Outgoing (m : ModemState) (cs : List Connection) : Prop where
  tx : Good modemRingSize m.tx
  telnet : 0 ≤ m.fd → m.telnet = true
  plus : m.state ≠ .online → m.plusCount = 0
  connecting : m.state = .connecting → m.tx.count = 0 ∧ ∃ rest, cs = ⟨[], [], []⟩ :: rest
  current : 0 ≤ m.fd → ∃ c rest, cs = c :: rest ∧ Flowing (wire m) c
  clean : ∀ c ∈ cs, Clean c

lemma Outgoing.down {m : ModemState} {cs : List Connection} (htx : Good modemRingSize m.tx) (hfd : m.fd < 0)
    (hstate : m.state ≠ .connecting) (hplus : m.plusCount = 0) (hclean : ∀ c ∈ cs, Clean c) : Outgoing m cs where
  tx := htx
  telnet := fun h => absurd h (not_le.mpr hfd)
  plus := fun _ => hplus
  connecting := fun h => absurd h hstate
  current := fun h => absurd h (not_le.mpr hfd)
  clean := hclean

lemma Outgoing.up {m : ModemState} {c : Connection} {rest : List Connection} (htx : Good modemRingSize m.tx)
    (htelnet : m.telnet = true) (hstate : m.state ≠ .connecting) (hplus : m.state ≠ .online → m.plusCount = 0)
    (hflow : Flowing (wire m) c) (hclean : ∀ d ∈ rest, Clean d) : Outgoing m (c :: rest) where
  tx := htx
  telnet := fun _ => htelnet
  plus := hplus
  connecting := fun h => absurd h hstate
  current := fun _ => ⟨c, rest, rfl, hflow⟩
  clean := by
    intro d hd
    rcases List.mem_cons.mp hd with rfl | hd
    · exact hflow.clean
    · exact hclean d hd

lemma Outgoing.congr {m m' : ModemState} {cs : List Connection} (h : Outgoing m cs) (hwire : wire m' = wire m)
    (hstate : m'.state = m.state) (hfd : m'.fd = m.fd) (htelnet : m'.telnet = m.telnet) : Outgoing m' cs := by
  have htx : m'.tx = m.tx := congrArg Wire.tx hwire
  have hplus : m'.plusCount = m.plusCount := congrArg Wire.plusCount hwire
  exact
    { tx := htx ▸ h.tx
      telnet := by rw [hfd, htelnet]; exact h.telnet
      plus := by rw [hstate, hplus]; exact h.plus
      connecting := by rw [hstate, htx]; exact h.connecting
      current := by rw [hfd, hwire]; exact h.current
      clean := h.clean }

/-- `Outgoing`, of a port. -/
def Sound (p : SerialPort) : Prop := Outgoing p.modem (connections p)

section Steps

variable {p : SerialPort}

lemma Outgoing.rxPuts {m : ModemState} {cs : List Connection} (h : Outgoing m cs) (s : List UInt8) :
    Outgoing (s.foldl modemRxPut m) cs := by
  rw [(modemRxPuts_frame m s).eq]
  exact h.congr rfl rfl rfl rfl

lemma Sound.emit (h : Sound p) {e : ModemEvent} (he : noteConnection (connections p) e = connections p) :
    Sound (p.emit e) := by
  unfold Sound
  rw [connections_emit, he]
  exact h

lemma note_id {cs : List Connection} {e : ModemEvent} (ho : e ≠ .opened) (he : ∀ c : Connection, c.note e = c) :
    noteConnection cs e = cs := by
  have hid : (Connection.note · e) = id := funext he
  cases e <;> first | exact absurd rfl ho | (simp only [noteConnection, hid]; cases cs <;> rfl)

lemma Sound.own (h : Sound p) (s : List UInt8) : Sound (modemToGuestStr p s) :=
  Sound.emit (p := ⟨s.foldl modemRxPut p.modem, p.attached, p.log⟩) (Outgoing.rxPuts h s)
    (note_id (by simp) fun _ => rfl)

lemma Sound.result (h : Sound p) (code : ResultCode) : Sound (modemResult p code) := by
  unfold modemResult
  split_ifs
  · exact h
  · exact (h.own _).emit (note_id (by simp) fun _ => rfl)
  · exact (h.own _).emit (note_id (by simp) fun _ => rfl)

lemma Sound.updateMsr (h : Sound p) : Sound (updateMsr p) := h.emit (note_id (by simp) fun _ => rfl)

lemma Sound.close (h : Sound p) : Sound (modemClose p) := by
  have hdown : connections (modemClose p) = connections p := by
    unfold modemClose
    split_ifs
    · rw [connections_mk, closesocket, connections_emit]
      exact note_id (by simp) fun _ => rfl
    · rfl
  have htx : (modemClose p).modem.tx = p.modem.tx := by
    unfold modemClose
    split_ifs <;> rfl
  unfold Sound
  rw [hdown]
  exact Outgoing.down (htx ▸ h.tx) fd_close (by simp [modemClose]) rfl h.clean

lemma Sound.carrierLost (h : Sound p) : Sound (modemCarrierLost p) := h.close.updateMsr.result _

lemma Sound.resetState (h : Sound p) : Sound (modemResetState p) := by
  have hlog : connections (modemResetState p) = connections (modemClose p) := by
    simp only [modemResetState, connections_emit, connections_mk]
    exact note_id (by simp) fun _ => rfl
  have hgood : Good modemRingSize (modemClose p).modem.tx.clear := good_clear (by decide) _
  have hfd : (modemResetState p).modem.fd < 0 := fd_close (p := p)
  unfold Sound
  rw [hlog]
  exact Outgoing.down hgood hfd (by simp [modemResetState, modemClose]) rfl h.close.clean

lemma Sound.apply (h : Sound p) (mode : PeripheralSerialMode) : Sound (serialApplyPort p mode) := by
  have hclosed : Sound (({ modemClose p with attached := false } : SerialPort).emit (.backend mode)) :=
    Sound.emit (p := { modemClose p with attached := false }) h.close (note_id (by simp) fun _ => rfl)
  cases mode with
  | tcpModem => exact hclosed.resetState
  | disabled | logToFile | physicalDevice => exact hclosed

lemma Sound.onConnected (rest : List Connection) (htx : Good modemRingSize p.modem.tx) (hempty : p.modem.tx.count = 0)
    (htelnet : p.modem.telnet = true) (hnew : connections p = ⟨[], [], []⟩ :: rest) (hclean : ∀ c ∈ rest, Clean c)
    (now : Int) : Sound (modemOnConnected p now) := by
  refine (Sound.updateMsr ?_).result _
  unfold Sound
  rw [connections_emit, connections_mk, hnew]
  refine Outgoing.up htx htelnet (by simp) (fun _ => rfl) ?_ hclean
  refine flowing_fresh hempty rfl rfl rfl fun k hk => ?_
  rw [List.head?_cons, Option.mem_some_iff] at hk
  exact hk ▸ le_refl now

lemma Sound.tryNextAddress (htx : Good modemRingSize p.modem.tx) (hfd : p.modem.fd < 0) (hplus : p.modem.plusCount = 0)
    (htstate : p.modem.tstate = .data) (htelnet : p.modem.telnet = true) (hclean : ∀ c ∈ connections p, Clean c)
    (attempt : List Sockaddr → Attempt) (ais : List Sockaddr)
    (hempty : (firstAttempt attempt ais).isSome = true → p.modem.tx.count = 0) :
    Sound (modemTryNextAddress attempt p ais) := by
  induction ais with
  | nil =>
    refine Sound.result ?_ _
    exact Outgoing.down htx hfd (by simp) hplus hclean
  | cons ai rest ih =>
    simp only [firstAttempt] at hempty
    simp only [modemTryNextAddress]
    by_cases hneg : (attempt (ai :: rest)).fd < 0
    · rw [if_pos hneg]
      exact ih fun h => hempty (by simpa [hneg] using h)
    rw [if_neg hneg]
    cases hout : (attempt (ai :: rest)).outcome with
    | failed => exact ih fun h => hempty (by simpa [hout] using h)
    | made =>
      have hzero : p.modem.tx.count = 0 := hempty (by simp [hneg, hout])
      refine Sound.onConnected (connections p) ?_ ?_ ?_ ?_ hclean _
      · exact htx
      · exact hzero
      · exact htelnet
      · simp [noteConnection, Connection.note]
    | pending =>
      have hzero : p.modem.tx.count = 0 := hempty (by simp [hneg, hout])
      have hparser : parserState p.modem = .data := by rw [parserState, htstate]
      have hflow : Flowing (wire p.modem) ⟨[], [], []⟩ := flowing_fresh hzero hplus hparser rfl (by simp)
      unfold Sound
      dsimp only
      rw [connections_emit, connections_mk]
      exact
        { tx := htx
          telnet := fun _ => htelnet
          plus := fun _ => hplus
          connecting := fun _ => ⟨hzero, _, rfl⟩
          current := fun _ => ⟨_, _, rfl, hflow⟩
          clean := by
            intro c hc
            rcases List.mem_cons.mp hc with rfl | hc
            · exact hflow.clean
            · exact hclean c hc }

lemma tx_close : (modemClose p).modem.tx = p.modem.tx := by
  unfold modemClose
  split_ifs <;> rfl

lemma Sound.dial (h : Sound p) (number : List UInt8) (host : WriteHost)
    (hempty : (dialTarget number).1 ≠ [] → (dialled number host).isSome = true → p.modem.tx.count = 0) :
    Sound (modemDial p number host) := by
  by_cases htarget : (dialTarget number).1 = []
  · rw [modemDial, if_pos htarget]
    exact h.result _
  rw [modemDial, if_neg htarget]
  unfold dialled at hempty
  cases hres : host.resolve (dialTarget number).1 (dialTarget number).2 with
  | nil => exact h.close.result _
  | cons ai rest =>
    rw [hres] at hempty
    have htry := Sound.tryNextAddress
      (p := { modemClose p with modem := { (modemClose p).modem with aiNext := ai :: rest, telnet := true } })
      h.close.tx fd_close rfl rfl rfl h.close.clean host.attempt (ai :: rest) fun hsome => by
        change (modemClose p).modem.tx.count = 0
        rw [tx_close]
        exact hempty htarget hsome
    exact htry

lemma toggles_frame (m : ModemState) (s : List UInt8) :
    wire (modemToggles m s) = wire m ∧ (modemToggles m s).telnet = m.telnet := by
  induction s generalizing m with
  | nil => exact ⟨rfl, rfl⟩
  | cons b s ih =>
    simp only [modemToggles]
    split_ifs <;> exact ih _

lemma Sound.processCommand (h : Sound p) (host : WriteHost) (hstate : p.modem.state ≠ .online)
    (hempty : ∀ number, parseCommand p.modem.line = .dial number → (dialTarget number).1 ≠ [] →
      (dialled number host).isSome = true → p.modem.tx.count = 0) : Sound (modemProcessCommand p host) := by
  unfold modemProcessCommand
  cases hcommand : parseCommand p.modem.line with
  | blank => exact h
  | invalid | bare => exact h.result _
  | dial number => exact h.dial number host (hempty number hcommand)
  | hangUp =>
    dsimp only
    split_ifs
    · exact h.carrierLost
    · exact h.result _
  | returnOnline =>
    dsimp only
    split_ifs with hfd
    swap
    · exact h.result _
    obtain ⟨c, rest, hcs, items, held, keys, hflow⟩ := h.current hfd
    have hplus : p.modem.plusCount = 0 := h.plus hstate
    refine Sound.result ?_ _
    unfold Sound
    rw [connections_emit, connections_mk, hcs]
    exact Outgoing.up h.tx (h.telnet hfd) (by simp) (fun hc => absurd rfl hc)
      (hflow.enter hplus host.now).flowing fun d hd => h.clean d (hcs ▸ List.mem_cons_of_mem c hd)
  | configure s =>
    obtain ⟨hwire, htelnet⟩ := toggles_frame p.modem s
    obtain ⟨hst, hfd⟩ := modemToggles_frame p.modem s
    have htoggled : Sound { p with modem := modemToggles p.modem s } := Outgoing.congr h hwire hst hfd htelnet
    dsimp only
    split_ifs
    · exact (htoggled.own _).result _
    · exact htoggled.result _

lemma Sound.flow (h : Sound p) (hfd : 0 ≤ p.modem.fd) :
    ∃ c rest items held keys, connections p = c :: rest ∧ Flow (wire p.modem) c items held keys ∧
      ∀ d ∈ rest, Clean d := by
  obtain ⟨c, rest, hcs, items, held, keys, hflow⟩ := h.current hfd
  exact ⟨c, rest, items, held, keys, hcs, hflow, fun d hd => h.clean d (hcs ▸ List.mem_cons_of_mem c hd)⟩

lemma fd_of_online (hk : (face p).Kept) (h : p.modem.state = .online) : 0 ≤ p.modem.fd := by
  by_contra hneg
  have hoff : p.modem.state = .offline := hk.offline.mpr (held_eq_false.mpr (not_le.mp hneg))
  rw [h] at hoff
  cases hoff

lemma Sound.typed (h : Sound p) (hk : (face p).Kept) (honline : p.modem.state = .online) (b : UInt8) (now : Int)
    (hroom : ¬Keeps p.modem b now →
      p.modem.tx.count + p.modem.plusCount + (Item.data b).encode.length ≤ modemRingSize) :
    Sound (SerialPort.emit { p with modem := modemDataTxByte p.modem b now } (.typed now b)) := by
  have hfd := fd_of_online hk honline
  have htelnet := h.telnet hfd
  obtain ⟨c, rest, items, held, keys, hcs, hflow, hclean⟩ := h.flow hfd
  unfold Sound
  rw [connections_emit, connections_mk, hcs]
  by_cases hkeep : Keeps p.modem b now
  · have hmodem : modemDataTxByte p.modem b now =
        { p.modem with plusCount := p.modem.plusCount + 1, lastPlusMs := now } := if_pos hkeep
    obtain ⟨rfl, -, hguard⟩ := hkeep
    rw [modem_emit, hmodem]
    exact Outgoing.up h.tx htelnet (by simp [honline]) (fun hc => absurd honline hc) (hflow.keep hguard).flowing hclean
  · have hroom := hroom hkeep
    have hwrite := hflow.write h.tx [b] [.byte now b] now
      (by simpa [wire, encode, Nat.add_assoc] using hroom) rfl
      (fun k hk => by
        rw [List.singleton_append, List.head?_cons, Option.mem_some_iff] at hk
        exact hk ▸ le_refl now)
    have hflowing := hwrite.flowing
    rw [List.map_singleton, encode_singleton] at hflowing
    rw [modem_emit, dataTxByte_eq htelnet hkeep]
    exact Outgoing.up (good_puts h.tx _) htelnet (by simp [honline]) (fun hc => absurd honline hc) hflowing hclean

lemma Sound.echo (h : Sound p) (data : UInt8) :
    Sound (if p.modem.echo then modemToGuestStr p (if data = 0x0D then crlf else [data]) else p) := by
  split_ifs
  · exact h.own _
  · exact h.own _
  · exact h

lemma Sound.write (h : Sound p) (hk : (face p).Kept) (data : UInt8) (host : WriteHost)
    (hroom : p.modem.state = .online → ¬Keeps p.modem data host.now →
      p.modem.tx.count + p.modem.plusCount + (Item.data data).encode.length ≤ modemRingSize)
    (hempty : Opens p data host → p.modem.tx.count = 0) : Sound (modemOnWrite p data host) := by
  unfold modemOnWrite
  by_cases honline : p.modem.state = .online
  · rw [if_pos honline]
    exact h.typed hk honline data host.now (hroom honline)
  rw [if_neg honline]
  have hsound := h.echo data
  have hq : (if p.modem.echo then modemToGuestStr p (if data = 0x0D then crlf else [data]) else p).modem =
      { p.modem with
        rx := (if p.modem.echo then modemToGuestStr p (if data = 0x0D then crlf else [data]) else p).modem.rx } := by
    split_ifs
    · exact (modemRxPuts_frame p.modem _).eq
    · exact (modemRxPuts_frame p.modem _).eq
    · rfl
  generalize (if p.modem.echo then modemToGuestStr p (if data = 0x0D then crlf else [data]) else p) = q at hsound hq ⊢
  have hline : q.modem.line = p.modem.line := by rw [hq]
  dsimp only
  by_cases hend : data = 0x0D ∨ data = 0x0A
  swap
  · rw [if_neg hend]
    split_ifs
    · exact Outgoing.congr hsound rfl rfl rfl rfl
    · exact Outgoing.congr hsound rfl rfl rfl rfl
    · exact hsound
  rw [if_pos hend]
  split_ifs with hnil
  · exact hsound
  have hrun : Sound (modemProcessCommand q host) := by
    refine hsound.processCommand host (by rw [hq]; exact honline) fun number hnumber htarget hsome => ?_
    have hasked : asked p data = some (.dial number) := by
      rw [hline] at hnumber hnil
      exact (if_pos ⟨honline, hend, hnil⟩).trans (congrArg some hnumber)
    rw [hq]
    refine hempty ?_
    rw [Opens, hasked]
    exact ⟨htarget, hsome⟩
  exact Outgoing.congr hrun rfl rfl rfl rfl

lemma Sound.ctrl (h : Sound p) (mcr : UInt8) : Sound (modemOnCtrl p mcr) := by
  unfold modemOnCtrl
  dsimp only
  split_ifs
  · exact Outgoing.congr h.carrierLost rfl rfl rfl rfl
  · exact Outgoing.congr h rfl rfl rfl rfl

lemma Sound.tstate_connecting (h : Sound p) (hstate : p.modem.state = .connecting) (hfd : 0 ≤ p.modem.fd) :
    p.modem.tstate = .data := by
  obtain ⟨-, rest, hcs⟩ := h.connecting hstate
  obtain ⟨c, rest', items, held, keys, hcs', hflow, -⟩ := h.flow hfd
  rw [hcs] at hcs'
  cases hcs'
  have hparser : parserState p.modem = .data := hflow.parser
  revert hparser
  unfold parserState
  cases p.modem.tstate <;> simp

lemma Sound.connect (h : Sound p) (r : Readiness) (attempt : List Sockaddr → Attempt) :
    Sound (pollConnect p r attempt) := by
  unfold pollConnect
  split_ifs with hc
  swap
  · exact h
  obtain ⟨hempty, rest, hcs⟩ := h.connecting hc.1
  have htelnet := h.telnet hc.2
  have hplus : p.modem.plusCount = 0 := h.plus (by rw [hc.1]; decide)
  have hclean : ∀ c ∈ rest, Clean c := fun c hm => h.clean c (hcs ▸ List.mem_cons_of_mem _ hm)
  have htstate := h.tstate_connecting hc.1 hc.2
  have hclosed : connections (closesocket p) = connections p := by
    rw [closesocket, connections_emit, connections_mk]
    exact note_id (by simp) fun _ => rfl
  have hnext : Sound (modemTryNextAddress attempt (closesocket p) (closesocket p).modem.aiNext) :=
    Sound.tryNextAddress (p := closesocket p) h.tx (Int.negSucc_lt_zero 0) hplus htstate htelnet (hclosed ▸ h.clean)
      attempt _ fun _ => hempty
  cases r with
  | ready err now =>
    dsimp only
    split_ifs
    · refine Sound.onConnected (p := p.emit .completed) rest h.tx hempty htelnet ?_ hclean now
      rw [connections_emit, hcs]
      rfl
    · exact hnext
  | waiting now =>
    dsimp only
    split_ifs
    · exact hnext
    · exact h

lemma Sound.telnetInput (h : Sound p) (hfd : 0 ≤ p.modem.fd) (hstate : p.modem.state ≠ .connecting) (bs : List UInt8)
    (hroom : p.modem.tx.count + 3 * (answersFrom p.modem bs).length ≤ modemRingSize) :
    Sound (modemTelnetInput p bs) := by
  have htelnet := h.telnet hfd
  obtain ⟨c, rest, items, held, keys, hcs, hflow, hclean⟩ := h.flow hfd
  obtain ⟨t, cmd, heq, hparser⟩ := telnetBytes_eq htelnet bs
  have hreceive := hflow.receive h.tx bs (answersFrom p.modem bs) rfl hroom
  unfold Sound modemTelnetInput
  have hflowing : Flowing
      { wire p.modem with
        tx := puts p.modem.tx (encode ((answersFrom p.modem bs).map fun o => .option o.1 o.2))
        parser := (decode (parserState p.modem) bs).1 }
      { c with received := c.received ++ bs } := hreceive.flowing
  rw [← hparser] at hflowing
  rw [connections_emit, connections_mk, hcs, modem_emit, heq]
  exact Outgoing.up (good_puts h.tx _) htelnet hstate h.plus hflowing hclean

lemma Sound.sendTook (h : Sound p) (hfd : 0 ≤ p.modem.fd) (hcount : 0 < p.modem.tx.count) (n : Nat) :
    Sound (sendTook p n) := by
  obtain ⟨c, rest, items, held, keys, hcs, hflow, hclean⟩ := h.flow hfd
  have hstate : p.modem.state ≠ .connecting := fun hc => by
    have hzero := (h.connecting hc).1
    omega
  -- what is offered is the beginning of what is in the ring
  have hcontig : contig p.modem.tx =
      (p.modem.tx.contents modemRingSize).take (min (modemRingSize - p.modem.tx.tail) p.modem.tx.count) := by
    have htail := h.tx.tail_lt
    exact contents_take (by omega) (by omega)
  have hlen : (contig p.modem.tx).length = min (modemRingSize - p.modem.tx.tail) p.modem.tx.count := by simp [contig]
  have hbs : (contig p.modem.tx).take n =
      (p.modem.tx.contents modemRingSize).take ((contig p.modem.tx).take n).length := by
    rw [List.length_take, hlen]
    nth_rewrite 1 [hcontig]
    rw [List.take_take]
  have hle : ((contig p.modem.tx).take n).length ≤ p.modem.tx.count := by
    rw [List.length_take, hlen]
    omega
  unfold Sound RpcEmu.Serial.sendTook
  dsimp only
  rw [connections_emit, connections_mk, hcs, modem_emit]
  exact Outgoing.up (h.tx.advance hle) (h.telnet hfd) hstate h.plus (hflow.send hbs).flowing hclean

lemma Sound.escape (h : Sound p) (hk : (face p).Kept) (now : Int)
    (hroom : p.modem.state = .online → p.modem.plusCount < 3 → modemGuardMs ≤ now - p.modem.lastPlusMs →
      p.modem.tx.count + p.modem.plusCount ≤ modemRingSize) : Sound (pollEscape p now) := by
  unfold pollEscape
  by_cases honline : p.modem.state = .online ∧ 0 < p.modem.plusCount
  swap
  · rw [if_neg honline]
    exact h
  obtain ⟨honline, hplus⟩ := honline
  have hfd := fd_of_online hk honline
  have htelnet := h.telnet hfd
  obtain ⟨c, rest, items, held, keys, hcs, hflow, hclean⟩ := h.flow hfd
  rw [if_pos ⟨honline, hplus⟩]
  by_cases hesc : p.modem.plusCount = 3 ∧ modemGuardMs ≤ now - p.modem.lastPlusMs
  · rw [if_pos hesc]
    refine Sound.result ?_ _
    unfold Sound
    rw [connections_emit, connections_mk, hcs]
    exact Outgoing.up h.tx htelnet (by simp) (fun _ => rfl) (hflow.escape hesc.1 hesc.2).flowing hclean
  rw [if_neg hesc]
  split_ifs with hflush
  swap
  · exact h
  have hwrite := hflow.write h.tx [] [] now
    (by simpa [wire] using hroom honline hflush.1 hflush.2) rfl (fun k hk => by
      -- the last key is the last plus
      rw [List.nil_append, hflow.keys] at hk
      cases held with
      | nil =>
        have hzero := hflow.plus
        rw [List.length_nil] at hzero
        exact absurd hplus (by change 0 = p.modem.plusCount at hzero; omega)
      | cons t ts =>
        have ht : t = p.modem.lastPlusMs := hflow.last t rfl
        rw [List.map_cons, List.cons_append, List.head?_cons, Option.mem_some_iff] at hk
        have hlate := hflush.2
        rw [← hk, Key.time, ht]
        simp only [modemGuardMs] at hlate
        omega)
  unfold Sound
  have hflowing := hwrite.flowing
  rw [List.map_nil, encode_nil, List.append_nil] at hflowing
  rw [connections_mk, hcs, flushPlus_eq htelnet]
  exact Outgoing.up (good_puts h.tx _) htelnet (by simp [honline]) (fun hc => absurd honline hc) hflowing hclean

/-- **A step keeps the connections in order**, where there is room. -/
theorem Sound.step (h : Sound p) (hk : (face p).Kept) (a : PortStep) (hroom : Room p a) : Sound (portStep p a) := by
  cases a with
  | write data host =>
    simp only [portStep]
    split_ifs with hatt
    · exact h.write hk data host (hroom hatt).1 (hroom hatt).2
    · exact h
  | ctrl mcr =>
    simp only [portStep]
    split_ifs
    · exact h.ctrl mcr
    · exact h
  | busReset =>
    simp only [portStep]
    split_ifs
    · exact h.resetState
    · exact h
  | connect r attempt => exact h.connect r attempt
  | recv r =>
    simp only [portStep]
    split_ifs with hreads
    swap
    · exact h
    cases r with
    | bytes bs =>
      simp only [recvOne]
      split_ifs
      · exact h.carrierLost
      · have hstate : p.modem.state ≠ .connecting := by rcases hreads.2 with hs | hs <;> simp [hs]
        exact h.telnetInput hreads.1 hstate bs (hroom hreads)
    | interrupted | wouldBlock => exact h
    | failed => exact h.carrierLost
  | send r =>
    simp only [portStep]
    split_ifs with hsends
    swap
    · exact h
    cases r with
    | took n =>
      simp only [sendOne]
      split_ifs
      · exact h.carrierLost
      · exact h.sendTook hsends.1 hsends.2 n
    | interrupted | wouldBlock => exact h
    | failed => exact h.carrierLost
  | escape now => exact h.escape hk now hroom
  | deliver =>
    simp only [portStep, pollDeliver]
    split_ifs
    · refine Sound.emit (p := ⟨_, _, _⟩) ?_ (note_id (by simp) fun _ => rfl)
      exact Outgoing.congr h rfl rfl rfl rfl
    · exact h
  | apply mode => exact h.apply mode
  | machineReset mode =>
    exact (h.emit (e := .uartReset) (note_id (by simp) fun _ => rfl)).apply mode

end Steps

/-- **Guest to network.**  Where there was room, what went out on every connection reads as the beginning of what the
guest wrote on it, and all of the rest is on its way while the connection lasts. -/
theorem guest_to_network (calls : List PortCall)
    (h : Along portStep Room modemStateInit (calls.flatMap PortCall.steps)) :
    let p := exec portCall modemStateInit calls
    (∀ c ∈ connections p, Clean c) ∧
      (0 ≤ p.modem.fd → ∃ c rest, connections p = c :: rest ∧ Whole p.modem c) := by
  have hinit : Sound modemStateInit :=
    Outgoing.down ⟨by decide, by decide, by decide⟩ (by decide) (by decide) rfl (by simp [connections, modemStateInit])
  have hrun : (face (exec portCall modemStateInit calls)).Kept ∧ Sound (exec portCall modemStateInit calls) := by
    rw [exec_portCall]
    exact exec_inv (I := fun p => (face p).Kept ∧ Sound p) (C := Room)
      (fun p a hp hroom => ⟨kept_step hp.1 a, hp.2.step hp.1 a hroom⟩) _ modemStateInit ⟨kept_init, hinit⟩ h
  refine ⟨hrun.2.clean, fun hfd => ?_⟩
  obtain ⟨c, rest, items, held, keys, hcs, hflow, -⟩ := hrun.2.flow hfd
  exact ⟨c, rest, hcs, items, hflow.written, hflow.data_eq, hflow.replies⟩

def pollOf (recvs : List RecvResult) (sends : List SendResult) : PortCall :=
  .poll ⟨.waiting 0, fun _ => ⟨-1, .failed, 0⟩, recvs, sends, 0, 0⟩

def callAndType : List PortCall :=
  .apply .tcpModem :: typeLine ['A', 'T', 'D', 'h'] (hostOf .made) ++ [.write 255 (hostOf .made)]

theorem guest_to_network_half :
    let p := exec portCall modemStateInit (callAndType ++ [pollOf [] [.took 1]])
    (connections p).map Connection.sent = [[255]] ∧ ∀ c ∈ connections p, Clean c :=
  ⟨by decide, (guest_to_network _ (by decide)).1⟩

theorem queued_for_another :
    ¬∀ calls : List PortCall, ∀ c ∈ connections (exec portCall modemStateInit calls), Clean c := by
  intro hall
  have h := hall
    (callAndType ++ [pollOf [.bytes []] []] ++ typeLine ['A', 'T', 'D', 'h'] (hostOf .made) ++ [pollOf [] [.took 2]])
    ⟨[.enter 0], [], [255, 255]⟩ (by decide)
  exact absurd h.data (by decide)

end RpcEmu.Serial
