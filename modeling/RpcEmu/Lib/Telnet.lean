import Mathlib.Data.List.Basic
import Mathlib.Data.List.Infix

/-!
# Telnet

The byte stream of the telnet protocol: 255 (`telIac`) begins a command, and is doubled where it is data.
-/

namespace Telnet

def telSe : UInt8 := 240
def telSb : UInt8 := 250
def telWill : UInt8 := 251
def telWont : UInt8 := 252
def telDo : UInt8 := 253
def telDont : UInt8 := 254
def telIac : UInt8 := 255

def isVerb (b : UInt8) : Bool := b = telWill || b = telWont || b = telDo || b = telDont

inductive State where
  | data
  | iac
  | verb (v : UInt8)
  | sub
  | subIac
  deriving DecidableEq, Repr

inductive Item where
  | data (b : UInt8)
  | option (verb opt : UInt8)
  deriving DecidableEq, Repr

def next (t : State) (b : UInt8) : State × List Item :=
  match t with
  | .data => if b = telIac then (.iac, []) else (.data, [.data b])
  | .iac =>
    if b = telIac then (.data, [.data telIac])
    else if isVerb b then (.verb b, [])
    else if b = telSb then (.sub, [])
    else (.data, [])
  | .verb v => (.data, [.option v b])
  | .sub => (if b = telIac then .subIac else .sub, [])
  | .subIac => (if b = telSe then .data else .sub, [])

/-- **What a stream says.**  Commands without an option, and subnegotiations, say nothing. -/
def decode (t : State) : List UInt8 → State × List Item
  | [] => (t, [])
  | b :: bs => ((decode (next t b).1 bs).1, (next t b).2 ++ (decode (next t b).1 bs).2)

def Item.encode : Item → List UInt8
  | .data b => if b = telIac then [telIac, telIac] else [b]
  | .option verb opt => [telIac, verb, opt]

/-- What is written for data bytes and option commands. -/
def encode (items : List Item) : List UInt8 := items.flatMap Item.encode

/-- Data, or an option with one of the four verbs. -/
def Item.Good : Item → Prop
  | .data _ => True
  | .option verb _ => isVerb verb = true

def Item.dataByte? : Item → Option UInt8
  | .data b => some b
  | .option _ _ => none

def Item.option? : Item → Option (UInt8 × UInt8)
  | .data _ => none
  | .option verb opt => some (verb, opt)

def dataOf (items : List Item) : List UInt8 := items.filterMap Item.dataByte?

def optionsOf (items : List Item) : List (UInt8 × UInt8) := items.filterMap Item.option?

@[simp] lemma decode_nil (t : State) : decode t [] = (t, []) := rfl

@[simp] lemma encode_nil : encode [] = [] := rfl

@[simp] lemma encode_append (a b : List Item) : encode (a ++ b) = encode a ++ encode b := List.flatMap_append

@[simp] lemma encode_singleton (i : Item) : encode [i] = i.encode := List.flatMap_singleton ..

@[simp] lemma dataOf_append (a b : List Item) : dataOf (a ++ b) = dataOf a ++ dataOf b := List.filterMap_append

@[simp] lemma optionsOf_append (a b : List Item) : optionsOf (a ++ b) = optionsOf a ++ optionsOf b :=
  List.filterMap_append

@[simp] lemma dataOf_cons_data (b : UInt8) (is : List Item) : dataOf (.data b :: is) = b :: dataOf is := rfl

@[simp] lemma dataOf_cons_option (v o : UInt8) (is : List Item) : dataOf (.option v o :: is) = dataOf is := rfl

@[simp] lemma optionsOf_cons_data (b : UInt8) (is : List Item) : optionsOf (.data b :: is) = optionsOf is := rfl

@[simp] lemma optionsOf_cons_option (v o : UInt8) (is : List Item) :
    optionsOf (.option v o :: is) = (v, o) :: optionsOf is := rfl

@[simp] lemma dataOf_map_data (bs : List UInt8) : dataOf (bs.map .data) = bs := by
  simp [dataOf, List.filterMap_map, Function.comp_def, Item.dataByte?]

@[simp] lemma optionsOf_map_data (bs : List UInt8) : optionsOf (bs.map .data) = [] := by
  simp [optionsOf, List.filterMap_map, Function.comp_def, Item.option?]

@[simp] lemma dataOf_map_option (os : List (UInt8 × UInt8)) : dataOf (os.map fun o => .option o.1 o.2) = [] := by
  simp [dataOf, List.filterMap_map, Function.comp_def, Item.dataByte?]

@[simp] lemma optionsOf_map_option (os : List (UInt8 × UInt8)) :
    optionsOf (os.map fun o => .option o.1 o.2) = os := by
  simp [optionsOf, List.filterMap_map, Function.comp_def, Item.option?]

/-- **A stream can be cut anywhere.** -/
theorem decode_append (t : State) (a b : List UInt8) :
    decode t (a ++ b) = ((decode (decode t a).1 b).1, (decode t a).2 ++ (decode (decode t a).1 b).2) := by
  induction a generalizing t with
  | nil => simp
  | cons x xs ih => simp only [List.cons_append, decode, ih, List.append_assoc]

lemma Item.decode_encode {i : Item} (h : i.Good) : decode .data i.encode = (.data, [i]) := by
  cases i with
  | data b =>
    by_cases hb : b = telIac
    · subst hb
      rfl
    · simp [Item.encode, decode, next, hb]
  | option verb opt =>
    have hverb : isVerb verb = true := h
    have hne : verb ≠ telIac := by
      rintro rfl
      exact absurd hverb (by decide)
    simp [Item.encode, decode, next, hverb, hne]

/-- **What was written is read.** -/
theorem decode_encode {items : List Item} (h : ∀ i ∈ items, i.Good) :
    decode .data (encode items) = (.data, items) := by
  induction items with
  | nil => rfl
  | cons i is ih =>
    have hi := Item.decode_encode (h i List.mem_cons_self)
    have his := ih fun j hj => h j (List.mem_cons_of_mem i hj)
    have hcons : encode (i :: is) = i.encode ++ encode is := rfl
    rw [hcons, decode_append, hi]
    simp [his]

/-- **A part of what was written** is read as a part of it. -/
theorem decode_prefix_encode {items : List Item} (h : ∀ i ∈ items, i.Good) {p : List UInt8}
    (hp : p <+: encode items) : (decode .data p).2 <+: items := by
  obtain ⟨q, hq⟩ := hp
  have hall := decode_encode h
  rw [← hq, decode_append] at hall
  exact ⟨_, congrArg Prod.snd hall⟩

lemma dataOf_mono {a b : List Item} (h : a <+: b) : dataOf a <+: dataOf b := h.filterMap _

lemma optionsOf_mono {a b : List Item} (h : a <+: b) : optionsOf a <+: optionsOf b := h.filterMap _

end Telnet
